import BpmpPlatform.Runtime.CompletionRuns
import BpmpPlatform.Runtime.Errors
import BpmpPlatform.Runtime.ScopeIdentities

/-! # Boundary subscriptions

The armed boundary events are those of the active nodes, as long as no scope entry overwrites the record of another
scope.
-/
namespace BpmpPlatform
open Std Outcome List

abbrev Subscriptions := ExtTreeMap NodeId ActiveBoundarySubscription

/-- The subscriptions are exactly the boundary events of the active nodes. -/
structure Armed (d : WorkflowDefinition) (active : NodeId → Prop) (subs : Subscriptions) : Prop where
  complete : ∀ n, active n → ∀ b ∈ d.boundaryEvents n, ∃ armedAt, subs[b.id]? = some (subscriptionOf n b armedAt)
  sound : ∀ id sub, subs[id]? = some sub → active sub.attachedNodeId ∧
    ∃ b ∈ d.boundaryEvents sub.attachedNodeId, b.id = id ∧
      sub = subscriptionOf sub.attachedNodeId b sub.armedAtEpochMs

variable {events : List DomainEvent} {occurredAt : Nat}

section Armed
variable {d : WorkflowDefinition} {active active' : NodeId → Prop} {subs : Subscriptions} {n : NodeId}
  {r' r : RoutingState}

theorem Armed.congr (h : Armed d active subs) (ha : ∀ m, active' m ↔ active m) : Armed d active' subs := by
  refine ⟨fun m hm => h.complete m ((ha m).mp hm),?_⟩
  intro id sub hs
  obtain ⟨hact,hb⟩ := h.sound id sub hs
  exact ⟨(ha _).mpr hact,hb⟩

/-- Removing the subscriptions of a node that stops being active, or has no boundary events. -/
theorem Armed.disarm (h : Armed d active subs) (ho : ∀ m, m ≠ n → (active' m ↔ active m))
    (hse : d.boundaryEvents n ≠ [] → ¬active' n) :
    Armed d active' (subs.filter fun _ sub => sub.attachedNodeId != n) := by
  refine ⟨?_,?_⟩
  · intro m hm b hb
    have hne : m ≠ n := by
      rintro rfl
      exact hse (ne_nil_of_mem hb) hm
    obtain ⟨armedAt,hs⟩ := h.complete m ((ho m hne).mp hm) b hb
    refine ⟨armedAt,?_⟩
    rw [ExtTreeMap.getElem?_filter', hs]
    simp [Option.filter, subscriptionOf, hne]
  · intro id sub hs
    rw [ExtTreeMap.getElem?_filter', Option.filter_eq_some_iff] at hs
    obtain ⟨hs,hne⟩ := hs
    have hne : sub.attachedNodeId ≠ n := by simpa using hne
    obtain ⟨hact,hb⟩ := h.sound id sub hs
    exact ⟨(ho _ hne).mpr hact,hb⟩

/-- What arming the boundary events of a node did: none was armed before, now all are. -/
theorem armAll_cases {boundaries : List BoundaryEventDefinition}
    (hd : (boundaries.map BoundaryEventDefinition.id).Nodup)
    (h : armAll n occurredAt boundaries r = .ok (events, r')) :
    (∀ b ∈ boundaries, r.activeBoundarySubscriptions[b.id]? = none) ∧
    (∀ b ∈ boundaries, r'.activeBoundarySubscriptions[b.id]? = some (subscriptionOf n b occurredAt)) ∧
    (∀ id, id ∉ boundaries.map BoundaryEventDefinition.id →
      r'.activeBoundarySubscriptions[id]? = r.activeBoundarySubscriptions[id]?) := by
  induction boundaries generalizing r events with
  | nil => cases h; simp
  | cons boundary rest ih =>
    simp only [armAll, bind_eq_ok] at h
    obtain ⟨r₁,h₁,⟨later,r₂⟩,h₂,⟨⟩⟩ := h
    obtain ⟨hn,rfl⟩ := armBoundary_eq_ok.mp h₁
    rw [map_cons, nodup_cons] at hd
    obtain ⟨hfr,har,hf⟩ := ih hd.2 h₂
    have hne : ∀ b ∈ rest, boundary.id ≠ b.id := by
      intro b hb heq
      exact hd.1 (mem_map.mpr ⟨b,hb,heq.symm⟩)
    refine ⟨forall_mem_cons.mpr ⟨hn,fun b hb => ?_⟩,forall_mem_cons.mpr ⟨?_,har⟩,fun id hid => ?_⟩
    · have hold := hfr b hb
      rwa [getElem?_insert_eq, if_neg (hne b hb)] at hold
    · rw [hf _ hd.1, getElem?_insert_eq, if_pos rfl]
    · rw [map_cons, mem_cons, not_or] at hid
      rw [hf id hid.2, getElem?_insert_eq, if_neg (Ne.symm hid.1)]

/-- Arming the boundary events of a node that becomes active. -/
theorem Armed.arm (hd : d.Accepted) (h : Armed d active r.activeBoundarySubscriptions)
    (ha : ∀ m, active' m ↔ active m ∨ m = n) (harm : armBoundaryEvents d n occurredAt r = .ok (events, r')) :
    Armed d active' r'.activeBoundarySubscriptions ∧ (d.boundaryEvents n ≠ [] → ¬active n) := by
  obtain ⟨hfr,har,hf⟩ := armAll_cases (hd.boundaryEvents_nodup n) harm
  have hi : d.boundaryEvents n ≠ [] → ¬active n := by
    intro hne hact
    obtain ⟨b,hb⟩ := exists_mem_of_ne_nil _ hne
    obtain ⟨armedAt,hs⟩ := h.complete n hact b hb
    rw [hfr b hb] at hs
    cases hs
  refine ⟨⟨?_,?_⟩,hi⟩
  · intro m hm b hb
    by_cases hmn : m = n
    · subst hmn
      exact ⟨occurredAt,har b hb⟩
    · obtain ⟨armedAt,hs⟩ := h.complete m (((ha m).mp hm).resolve_right hmn) b hb
      refine ⟨armedAt,?_⟩
      rw [hf b.id, hs]
      intro hid
      obtain ⟨b',hb',heq⟩ := mem_map.mp hid
      exact hmn (hd.boundaryEvents_unique hb hb' heq.symm).1
  · intro id sub hs
    by_cases hid : id ∈ (d.boundaryEvents n).map BoundaryEventDefinition.id
    · obtain ⟨b,hb,rfl⟩ := mem_map.mp hid
      rw [har b hb, Option.some.injEq] at hs
      subst hs
      exact ⟨(ha n).mpr (.inr rfl),b,hb,rfl,rfl⟩
    · rw [hf id hid] at hs
      obtain ⟨hact,hb⟩ := h.sound id sub hs
      exact ⟨(ha _).mpr (.inl hact),hb⟩

end Armed

def NodeActive (r : RoutingState) (n : NodeId) : Prop :=
  r.activeTokens[n]? ≠ none ∨ r.activeMultiInstances[n]? ≠ none ∨
    ∃ (id : ScopeInstanceId) (scope : ActiveExecutionScope), r.activeScopes[id]? = some scope ∧
      scope.scopeNodeId = n

structure Placed (d : WorkflowDefinition) (r : RoutingState) : Prop where
  tokens : ∀ n : NodeId, r.activeTokens[n]? ≠ none →
    ∃ node : Node, d.nodes[n]? = some node ∧ node.activityNext.isSome = true ∧ d.multiInstance n = none
  iterations : ∀ n : NodeId, r.activeMultiInstances[n]? ≠ none →
    ∃ node : Node, d.nodes[n]? = some node ∧ node.activityNext.isSome = true ∧ d.multiInstance n ≠ none
  scopes : ∀ (id : ScopeInstanceId) (scope : ActiveExecutionScope), r.activeScopes[id]? = some scope →
    (∃ node : Node, d.nodes[scope.scopeNodeId]? = some node ∧ node.isSubProcess = true) ∧
      id.value = scopeIdentity scope.parentScopeInstanceId scope.scopeNodeId scope.invocation
  one : ∀ (id id' : ScopeInstanceId) (scope scope' : ActiveExecutionScope), r.activeScopes[id]? = some scope →
    r.activeScopes[id']? = some scope' → scope.scopeNodeId = scope'.scopeNodeId → id = id'

/-- The invariant: nodes are placed, a node with boundary events holds one token at most, and the
subscriptions are those of the active nodes. -/
structure Subscribed (d : WorkflowDefinition) (r : RoutingState) : Prop extends Placed d r where
  single : ∀ n : NodeId, d.boundaryEvents n ≠ [] → r.activeTokens[n]?.getD 0 ≤ 1
  armed : Armed d (NodeActive r) r.activeBoundarySubscriptions

section Placement
variable {d : WorkflowDefinition} {r r₁ r₂ : RoutingState} {n : NodeId} {id : ScopeInstanceId}
  {scope : ActiveExecutionScope} {node : Node}

theorem activityNext_of_isSubProcess (h : node.isSubProcess = true) : node.activityNext = none := by
  cases node <;> first | rfl | cases h

theorem Placed.no_scope (h : Placed d r) (hs : r.activeScopes[id]? = some scope)
    (hn : d.nodes[scope.scopeNodeId]? = some node) (hact : node.activityNext.isSome = true) : False := by
  obtain ⟨⟨node',hn',hsub⟩,_⟩ := h.scopes id scope hs
  rw [hn] at hn'
  cases hn'
  rw [activityNext_of_isSubProcess hsub] at hact
  cases hact

theorem Placed.no_iterations (h : Placed d r) (ht : r.activeTokens[n]? ≠ none) : r.activeMultiInstances[n]? = none := by
  by_contra hne
  obtain ⟨_,_,_,hmi⟩ := h.tokens n ht
  obtain ⟨_,_,_,hmi'⟩ := h.iterations n hne
  exact hmi' hmi

theorem Placed.node_of_active (h : Placed d r) (ha : NodeActive r n) : ∃ node, d.nodes[n]? = some node := by
  rcases ha with ha | ha | ⟨id,scope,hs,rfl⟩
  · exact (h.tokens n ha).imp fun _ => And.left
  · exact (h.iterations n ha).imp fun _ => And.left
  · exact (h.scopes id scope hs).1.imp fun _ => And.left

theorem Placed.scope_only (h : Placed d r) (hs : r.activeScopes[id]? = some scope)
    (h₁ : NodeActive r₁ scope.scopeNodeId) (ht : r₁.activeTokens = r.activeTokens)
    (hm : r₁.activeMultiInstances = r.activeMultiInstances) :
    ∃ (id' : ScopeInstanceId) (scope' : ActiveExecutionScope), r₁.activeScopes[id']? = some scope' ∧
      scope'.scopeNodeId = scope.scopeNodeId := by
  rcases h₁ with h₁ | h₁ | h₁
  · rw [ht] at h₁
    obtain ⟨node,hn,hact,_⟩ := h.tokens _ h₁
    exact (h.no_scope hs hn hact).elim
  · rw [hm] at h₁
    obtain ⟨node,hn,hact,_⟩ := h.iterations _ h₁
    exact (h.no_scope hs hn hact).elim
  · exact h₁

theorem Subscribed.of_eq (h : Subscribed d r) (ht : r₁.activeTokens = r.activeTokens)
    (hm : r₁.activeMultiInstances = r.activeMultiInstances) (hs : r₁.activeScopes = r.activeScopes)
    (hb : r₁.activeBoundarySubscriptions = r.activeBoundarySubscriptions) : Subscribed d r₁ := by
  have ha : ∀ m, NodeActive r₁ m ↔ NodeActive r m := by
    intro m
    rw [NodeActive, NodeActive, ht, hm, hs]
  refine ⟨⟨?_,?_,?_,?_⟩,?_,?_⟩
  · rw [ht]; exact h.tokens
  · rw [hm]; exact h.iterations
  · rw [hs]; exact h.scopes
  · rw [hs]; exact h.one
  · rw [ht]; exact h.single
  · rw [hb]; exact h.armed.congr ha

/-- A node became active and its boundary events were armed. -/
theorem Subscribed.arm (hd : d.Accepted) (h : Subscribed d r)
    (harm : armBoundaryEvents d n occurredAt r₁ = .ok (events, r₂)) (hp : Placed d r₁)
    (hb : r₁.activeBoundarySubscriptions = r.activeBoundarySubscriptions)
    (ha : ∀ m, NodeActive r₁ m ↔ NodeActive r m ∨ m = n)
    (hsi : ∀ m : NodeId, d.boundaryEvents m ≠ [] → (m = n → ¬NodeActive r n) → r₁.activeTokens[m]?.getD 0 ≤ 1) :
    Subscribed d r₂ := by
  have hold : Armed d (NodeActive r) r₁.activeBoundarySubscriptions := by rw [hb]; exact h.armed
  obtain ⟨har,hi⟩ := hold.arm hd ha harm
  rw [armBoundaryEvents_frame harm]
  refine { hp with armed := har, single := fun m hm => hsi m hm ?_ }
  rintro rfl
  exact hi hm

/-- A node stopped being active and its boundary events were disarmed. -/
theorem Subscribed.disarm (h : Subscribed d r) (hp : Placed d r₁)
    (hb : r₁.activeBoundarySubscriptions = r.activeBoundarySubscriptions)
    (ho : ∀ m, m ≠ n → (NodeActive r₁ m ↔ NodeActive r m)) (hs : d.boundaryEvents n ≠ [] → ¬NodeActive r₁ n)
    (hle : ∀ m : NodeId, r₁.activeTokens[m]?.getD 0 ≤ r.activeTokens[m]?.getD 0) :
    Subscribed d (r₁.disarmBoundaries n) := by
  rw [disarmBoundaries_eq, hb]
  exact { hp with armed := h.armed.disarm ho hs, single := fun m hm => (hle m).trans (h.single m hm) }

end Placement

end BpmpPlatform
