import BpmpPlatform.Runtime.Tracking

/-! # Scopes, boundary events and multi-instance starts

The operations made of several events, inverted and tracked.
-/
namespace BpmpPlatform
open Std Outcome RoutingState InstanceState List

variable {r r' : RoutingState} {nodeId : NodeId} {now : Nat} {events : List DomainEvent}

section Scopes
variable {scopeNodeId startNodeId : NodeId} {scopeInstanceId : ScopeInstanceId} {parent : Option ScopeInstanceId}
  {invocation : Nat}

theorem mem_scopeInstances {scopes : ExtTreeMap ScopeInstanceId ActiveExecutionScope} :
    scopeInstanceId ∈ scopeInstances scopes scopeNodeId ↔
      ∃ scope : ActiveExecutionScope, scopes[scopeInstanceId]? = some scope ∧ scope.scopeNodeId = scopeNodeId := by
  simp [scopeInstances, mem_keysWhere]

def RoutingState.nextInvocation (r : RoutingState) (scopeNodeId : NodeId) : Nat :=
  r.scopeInvocationCounts[scopeNodeId]?.getD 0 + 1

theorem enterScope_eq_ok :
    r.enterScope scopeNodeId startNodeId parent = .ok (r', scopeInstanceId, invocation) ↔
      scopeInstances r.activeScopes scopeNodeId = [] ∧
      r.scopeInvocationCounts[scopeNodeId]?.getD 0 < u64Max ∧
      invocation = r.nextInvocation scopeNodeId ∧
      scopeInstanceId.value = scopeIdentity parent scopeNodeId invocation ∧
      r' = { r with
        scopeInvocationCounts := r.scopeInvocationCounts.insert scopeNodeId invocation
        activeScopes := r.activeScopes.insert scopeInstanceId
          ⟨scopeNodeId, startNodeId, parent, invocation⟩ } := by
  simp only [enterScope, bind_eq_ok, ensure_eq_ok, List.isEmpty_iff, checkedSucc_eq_ok]
  constructor
  · rintro ⟨_,he,next,⟨hlt,rfl⟩,h⟩
    split at h
    · exact absurd h throw_ne_ok
    · rename_i id hid
      cases h
      exact ⟨he,hlt,rfl,Identifier.new_eq_ok.mp hid,rfl⟩
  · rintro ⟨he,hlt,rfl,hid,rfl⟩
    refine ⟨(),he,_,⟨hlt,rfl⟩,?_⟩
    have hnew := Identifier.new_eq_ok.mpr hid
    simp only [nextInvocation] at hnew
    rw [hnew]
    rfl

theorem enterScope_tracks {now : Nat}
    (h : r.enterScope scopeNodeId startNodeId parent = .ok (r', scopeInstanceId, invocation)) :
    routeEvent r (.scopeEntered scopeInstanceId scopeNodeId startNodeId parent invocation now) = r' := by
  obtain ⟨_,_,rfl,_,rfl⟩ := enterScope_eq_ok.mp h
  have hm : max (r.scopeInvocationCounts[scopeNodeId]?.getD 0) (r.nextInvocation scopeNodeId) =
      r.nextInvocation scopeNodeId := by
    simp only [nextInvocation]; omega
  simp only [routeEvent, applyEvent, toState, routing, hm]

theorem completeScope_eq_ok {scope : ActiveExecutionScope} :
    r.completeScope scopeInstanceId scopeNodeId = .ok (r', scope) ↔
      r.activeScopes[scopeInstanceId]? = some scope ∧ scope.scopeNodeId = scopeNodeId ∧
      r' = { r with activeScopes := r.activeScopes.erase scopeInstanceId } := by
  simp only [completeScope, bind_eq_ok, okOr_eq_ok, ensure_eq_ok, beq_iff_eq,
    pure_eq_ok, Prod.mk.injEq]
  constructor
  · rintro ⟨scope',hs,_,hn,rfl,rfl⟩; exact ⟨hs,hn,rfl⟩
  · rintro ⟨hs,hn,rfl⟩; exact ⟨scope,hs,(),hn,rfl,rfl⟩

end Scopes

section Boundaries

theorem mem_armedFor {id : NodeId} :
    id ∈ r.armedFor nodeId ↔ ∃ subscription, r.activeBoundarySubscriptions[id]? = some subscription ∧
      subscription.attachedNodeId = nodeId := by
  simp [armedFor, mem_keysWhere]

/-- Disarming keeps exactly the subscriptions of the other nodes. -/
theorem disarmBoundaries_eq (r : RoutingState) (nodeId : NodeId) :
    r.disarmBoundaries nodeId = { r with
      activeBoundarySubscriptions := r.activeBoundarySubscriptions.filter
        fun _ subscription => subscription.attachedNodeId != nodeId } := by
  simp only [disarmBoundaries, armedFor, foldl_erase_keysWhere, bne]

theorem disarmBoundaries_of_none (h : r.armedFor nodeId = []) : r.disarmBoundaries nodeId = r := by
  simp [disarmBoundaries, h]

theorem disarmBoundaryEvents_tracks (nodeId : NodeId) (now : Nat) (r : RoutingState) :
    Tracks (disarmBoundaryEvents nodeId now r).1 r (disarmBoundaryEvents nodeId now r).2 := by
  unfold disarmBoundaryEvents
  by_cases h : r.armedFor nodeId = []
  · simp only [h, isEmpty_nil, ↓reduceIte, disarmBoundaries_of_none h]
    exact Tracks.nil r
  · have hne : (r.armedFor nodeId).isEmpty = false := by simpa using h
    simp only [hne, Bool.false_eq_true, ↓reduceIte]
    exact Tracks.single rfl

theorem completeTasks_one : completeTasks nodeId 1 r = .ok r' ↔ r.completeTask nodeId = .ok r' := by
  simp [completeTasks]

variable {boundaries : List BoundaryEventDefinition}

theorem disarmBoundaryEvents_shape {e : DomainEvent} (he : e ∈ (disarmBoundaryEvents nodeId now r).1) :
    e = .boundaryEventsDisarmed nodeId (r.armedFor nodeId) now := by
  unfold disarmBoundaryEvents at he
  split at he
  · simp at he
  · exact mem_singleton.mp he

def armedEvent (nodeId : NodeId) (occurredAt : Nat) (boundary : BoundaryEventDefinition) : DomainEvent :=
  .boundaryEventArmed boundary.id nodeId boundary.target boundary.cancelActivity boundary.trigger occurredAt

/-- Arming adds subscriptions attached to the node, with an event for each boundary event. -/
theorem armAll_spec (h : armAll nodeId now boundaries r = .ok (events, r')) :
    Tracks events r r' ∧ events = boundaries.map (armedEvent nodeId now) ∧
      r' = { r with activeBoundarySubscriptions := r'.activeBoundarySubscriptions } ∧
      ∀ (id : NodeId) subscription, r'.activeBoundarySubscriptions[id]? = some subscription →
        r.activeBoundarySubscriptions[id]? = some subscription ∨ subscription.attachedNodeId = nodeId := by
  induction boundaries generalizing r events with
  | nil =>
    cases h
    exact ⟨Tracks.nil _,rfl,rfl,fun _ _ => .inl⟩
  | cons boundary rest ih =>
    simp only [armAll, bind_eq_ok] at h
    obtain ⟨r₁,h₁,⟨later,r₂⟩,h₂,⟨⟩⟩ := h
    obtain ⟨_,rfl⟩ := armBoundary_eq_ok.mp h₁
    obtain ⟨ht,rfl,hf,hs⟩ := ih h₂
    refine ⟨Tracks.cons rfl ht,rfl,hf,fun id subscription hid => ?_⟩
    rcases hs id subscription hid with hold | hnew
    · rcases of_getElem?_insert hold with ⟨-,rfl⟩ | hold
      · exact .inr rfl
      · exact .inl hold
    · exact .inr hnew

section
variable {d : WorkflowDefinition} (h : armBoundaryEvents d nodeId now r = .ok (events, r'))
include h

theorem armBoundaryEvents_tracks : Tracks events r r' := (armAll_spec h).1

theorem armBoundaryEvents_frame :
    r' = { r with activeBoundarySubscriptions := r'.activeBoundarySubscriptions } := (armAll_spec h).2.2.1

theorem armBoundaryEvents_forall {P : DomainEvent → Prop}
    (hP : ∀ boundary ∈ d.boundaryEvents nodeId, P (armedEvent nodeId now boundary)) : ∀ e ∈ events, P e := by
  rw [(armAll_spec h).2.1]
  exact forall_mem_map.mpr hP

end

end Boundaries

section MultiInstance
variable {n : Nat} {completed : Bool}

def RoutingState.withMultiInstance (r : RoutingState) (nodeId : NodeId) (active : ActiveMultiInstance) :
    RoutingState :=
  { r with activeMultiInstances := r.activeMultiInstances.insert nodeId active }

/-- The first iterations touch the record of their own activity only. -/
theorem activateIterations_spec (h : activateIterations nodeId now n r = .ok (events, r')) :
    Tracks events r r' ∧ (∀ {P : DomainEvent → Prop},
      (∀ taskType iteration item, P (.multiInstanceIterationActivated nodeId taskType iteration item now)) →
        ∀ e ∈ events, P e) ∧
      ∀ active, r.activeMultiInstances[nodeId]? = some active → ∃ active', r' = r.withMultiInstance nodeId active' := by
  induction n generalizing r events with
  | zero =>
    cases h
    exact ⟨Tracks.nil _,fun _ => forall_mem_nil _,
      fun active ha => ⟨active,by simp only [withMultiInstance, insert_eq_self ha]⟩⟩
  | succ n ih =>
    simp only [activateIterations, bind_eq_ok] at h
    obtain ⟨⟨r₁,iteration,taskType,item⟩,h₁,⟨later,r₂⟩,h₂,⟨⟩⟩ := h
    obtain ⟨ht,hs,hf⟩ := ih h₂
    refine ⟨Tracks.cons (activateNextMultiInstance_tracks h₁) ht,
      fun hP => forall_mem_cons.mpr ⟨hP _ _ _,hs hP⟩,fun _ _ => ?_⟩
    obtain ⟨active₁,_,_,_,_,rfl,_⟩ := activateNextMultiInstance_eq_ok.mp h₁
    obtain ⟨active',rfl⟩ := hf active₁.advance (by rw [getElem?_insert_eq]; simp)
    exact ⟨active',by simp only [withMultiInstance, insert_insert]⟩

structure MultiInstanceStart (taskType : TaskType) (spec : MultiInstanceDefinition) (vars : Variables)
    (engine : EnginePolicy) (nodeId : NodeId) (r : RoutingState) (total : Nat)
    (items : List WorkflowValue) : Prop where
  materialized : materializeMultiInstance nodeId spec vars = .ok (total, items)
  bounded : total ≤ engine.maxMultiInstanceCardinality
  fresh : r.activeMultiInstances[nodeId]? = none

def initialMultiInstance (taskType : TaskType) (spec : MultiInstanceDefinition) (engine : EnginePolicy)
    (total : Nat) (items : List WorkflowValue) : ActiveMultiInstance :=
  ⟨taskType, spec.mode, total, 0, effectiveParallelism engine spec total, spec.itemVariable, items, ∅, ∅⟩

variable {taskType : TaskType} {spec : MultiInstanceDefinition} {vars : Variables} {engine : EnginePolicy}

theorem startMultiInstance_cases
    (h : startMultiInstance nodeId taskType spec vars engine now r = .ok (events, r', completed)) :
    ∃ total items, MultiInstanceStart taskType spec vars engine nodeId r total items ∧
      ((total = 0 ∧ completed = true ∧ r' = r ∧
        events = [.multiInstanceStarted nodeId taskType spec.mode 0 (effectiveParallelism engine spec 0)
          spec.itemVariable items now, .multiInstanceCompleted nodeId false [] now]) ∨
      (0 < total ∧ completed = false ∧ ∃ later, events = .multiInstanceStarted nodeId taskType spec.mode total
          (effectiveParallelism engine spec total) spec.itemVariable items now :: later ∧
        activateIterations nodeId now (effectiveParallelism engine spec total)
          (r.withMultiInstance nodeId (initialMultiInstance taskType spec engine total items)) =
            .ok (later, r'))) := by
  simp only [startMultiInstance, bind_eq_ok, ensure_eq_ok, decide_eq_true_eq,
    startMultiInstance_eq_ok] at h
  obtain ⟨⟨total,items⟩,hm,_,hle,r₁,⟨hn,rfl⟩,h⟩ := h
  refine ⟨total,items,⟨hm,hle,hn⟩,?_⟩
  by_cases h0 : total = 0
  · subst h0
    simp only [↓reduceIte] at h
    obtain ⟨rfl,⟨⟩⟩ := h
    refine Or.inl ⟨rfl,rfl,?_,rfl⟩
    simp only [finishMultiInstance, erase_insert_of_absent hn]
  · simp only [h0, ↓reduceIte, bind_eq_ok] at h
    obtain ⟨⟨later,r₂⟩,hit,⟨⟩⟩ := h
    exact Or.inr ⟨Nat.pos_of_ne_zero h0,rfl,later,rfl,hit⟩

theorem startMultiInstance_tracks
    (h : startMultiInstance nodeId taskType spec vars engine now r = .ok (events, r', completed)) :
    Tracks events r r' := by
  obtain ⟨total,items,hs,⟨rfl,-,rfl,rfl⟩ | ⟨-,-,later,rfl,hit⟩⟩ := startMultiInstance_cases h
  · refine Tracks.cons rfl (Tracks.single ?_)
    simp only [routeEvent, applyEvent, toState, routing, erase_insert_of_absent hs.fresh]
  · exact Tracks.cons rfl (activateIterations_spec hit).1

/-- A multi-instance start either has no instances and changes nothing, or adds one record. -/
theorem startMultiInstance_skips
    (h : startMultiInstance nodeId taskType spec vars engine now r = .ok (events, r', true)) : r' = r := by
  obtain ⟨_,_,_,⟨-,-,hr,-⟩ | ⟨-,hc,-⟩⟩ := startMultiInstance_cases h
  · exact hr
  · cases hc

theorem startMultiInstance_runs
    (h : startMultiInstance nodeId taskType spec vars engine now r = .ok (events, r', false)) :
    r.activeMultiInstances[nodeId]? = none ∧ ∃ active, r' = r.withMultiInstance nodeId active := by
  obtain ⟨total,items,hs,⟨-,hc,-⟩ | ⟨-,-,later,-,hit⟩⟩ := startMultiInstance_cases h
  · cases hc
  · refine ⟨hs.fresh,?_⟩
    have hin : (r.withMultiInstance nodeId
        (initialMultiInstance taskType spec engine total items)).activeMultiInstances[nodeId]? =
        some (initialMultiInstance taskType spec engine total items) := by
      simp only [withMultiInstance, getElem?_insert_eq, ↓reduceIte]
    obtain ⟨active,rfl⟩ := (activateIterations_spec hit).2.2 _ hin
    exact ⟨active,by simp only [withMultiInstance, insert_insert]⟩

end MultiInstance

def DomainEvent.isAuxiliary : DomainEvent → Bool
  | .boundaryEventArmed .. | .boundaryEventsDisarmed .. | .multiInstanceStarted ..
  | .multiInstanceIterationActivated .. | .multiInstanceCompleted .. => true
  | _ => false

section Auxiliary
variable {d : WorkflowDefinition}

theorem armBoundaryEvents_auxiliary (h : armBoundaryEvents d nodeId now r = .ok (events, r')) :
    ∀ e ∈ events, e.isAuxiliary = true := armBoundaryEvents_forall h fun _ _ => rfl

theorem disarmBoundaryEvents_auxiliary :
    ∀ e ∈ (disarmBoundaryEvents nodeId now r).1, e.isAuxiliary = true := by
  intro e he
  rw [disarmBoundaryEvents_shape he]
  rfl

theorem startMultiInstance_auxiliary {taskType : TaskType} {spec : MultiInstanceDefinition} {vars : Variables}
    {engine : EnginePolicy} {completed : Bool}
    (h : startMultiInstance nodeId taskType spec vars engine now r = .ok (events, r', completed)) :
    ∀ e ∈ events, e.isAuxiliary = true := by
  obtain ⟨total,items,_,⟨-,-,-,rfl⟩ | ⟨-,-,later,rfl,hit⟩⟩ := startMultiInstance_cases h
  · simp [DomainEvent.isAuxiliary]
  · exact forall_mem_cons.mpr ⟨rfl,(activateIterations_spec hit).2.1 fun _ _ _ => rfl⟩

end Auxiliary

end BpmpPlatform
