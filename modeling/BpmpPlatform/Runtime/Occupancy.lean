import BpmpPlatform.Runtime.SubscriptionRuns

/-! # What stands where

The number of things that stand at the nodes chosen by a test, the tokens a join still waits for and the instances of
a sub-process are the quantities that the operations move.
-/
namespace BpmpPlatform
open Std Outcome

def PendingGatewayJoin.remaining (join : PendingGatewayJoin) : Nat := join.expectedTokens - join.arrivedTokens

namespace RoutingState

def load (q : NodeId → Bool) (r : RoutingState) : Nat :=
  weight (fun n count => if q n then count else 0) r.activeTokens +
    weight (fun n _ => (q n).toNat) r.activeMultiInstances +
    weight (fun n _ => (q n).toNat) r.pendingJoins +
    weight (fun _ scope => (q scope.scopeNodeId).toNat) r.activeScopes

def awaited (r : RoutingState) (join : NodeId) : Nat := (r.pendingJoins[join]?.map PendingGatewayJoin.remaining).getD 0

def instances (r : RoutingState) (scopeNodeId : NodeId) : Nat :=
  weight (fun _ scope => (scope.scopeNodeId == scopeNodeId).toNat) r.activeScopes

end RoutingState

variable {count : Nat}

section Tasks
variable {r r' : RoutingState} {n : NodeId} (q : NodeId → Bool) {active : ActiveMultiInstance}

theorem load_of_eq (ht : r'.activeTokens = r.activeTokens) (hm : r'.activeMultiInstances = r.activeMultiInstances)
    (hj : r'.pendingJoins = r.pendingJoins) (hs : r'.activeScopes = r.activeScopes) : r'.load q = r.load q := by
  rw [RoutingState.load, ht, hm, hj, hs, RoutingState.load]

theorem load_disarmBoundaries : (r.disarmBoundaries n).load q = r.load q := load_of_eq q rfl rfl rfl rfl

theorem load_armBoundaryEvents {d : WorkflowDefinition} {occurredAt : Nat} {events : List DomainEvent}
    (h : armBoundaryEvents d n occurredAt r = .ok (events, r')) : r'.load q = r.load q := by
  rw [armBoundaryEvents_frame h]
  exact load_of_eq q rfl rfl rfl rfl

theorem load_activateTask (h : r.activateTask n = .ok r') : r'.load q = r.load q + (q n).toNat := by
  obtain ⟨_,rfl⟩ := activateTask_eq_ok.mp h
  simp only [RoutingState.load]
  cases hc : r.activeTokens[n]? with
  | none =>
    rw [weight_insert_of_absent _ hc]
    cases q n <;> simp
    omega
  | some count =>
    have hw := weight_insert_of_present (fun n count => if q n then count else 0) hc (w := count + 1)
    cases hq : q n <;> simp [hq] at hw ⊢ <;> omega

theorem load_completeTask (h : r.completeTask n = .ok r') : r'.load q + (q n).toNat = r.load q := by
  obtain ⟨count,hc,rfl⟩ := completeTask_eq_ok.mp h
  simp only [RoutingState.load, releaseTokens, hc]
  cases count with
  | zero =>
    rw [weight_erase _ hc]
    cases q n <;> simp
    omega
  | succ count =>
    have hw := weight_insert_of_present (fun n count => if q n then count else 0) hc (w := count + 1)
    cases hq : q n <;> simp [hq] at hw ⊢ <;> omega

theorem load_withMultiInstance (hn : r.activeMultiInstances[n]? = none) (active : ActiveMultiInstance) :
    (r.withMultiInstance n active).load q = r.load q + (q n).toNat := by
  have hw := weight_insert_of_absent (fun n _ => (q n).toNat) hn (v := active)
  simp only [RoutingState.load, RoutingState.withMultiInstance] at hw ⊢
  omega

theorem load_updateMultiInstance (hs : r.activeMultiInstances[n]? = some active) (active' : ActiveMultiInstance) :
    (r.withMultiInstance n active').load q = r.load q := by
  have hw := weight_insert_of_present (fun n _ => (q n).toNat) hs (w := active')
  simp only [RoutingState.load, RoutingState.withMultiInstance] at hw ⊢
  omega

theorem load_finishMultiInstance (hs : r.activeMultiInstances[n]? = some active) :
    (r.finishMultiInstance n).load q + (q n).toNat = r.load q := by
  have hw := weight_erase (fun n _ => (q n).toNat) hs
  simp only [RoutingState.load, RoutingState.finishMultiInstance] at hw ⊢
  omega

end Tasks

section Joins
variable {r r' : RoutingState} {n : NodeId} (q : NodeId → Bool)

theorem load_openJoin (h : r.openJoin n count = .ok r') : r'.load q = r.load q + (q n).toNat := by
  obtain ⟨_,hn,rfl⟩ := openJoin_eq_ok.mp h
  have hw := weight_insert_of_absent (fun n _ => (q n).toNat) hn (v := ⟨count, 0⟩)
  simp only [RoutingState.load] at hw ⊢
  omega

theorem load_arrive {complete : Bool} (h : r.arrive n = .ok (r', complete)) : r'.load q = r.load q := by
  obtain ⟨join,hj,_,_,rfl,_⟩ := arrive_eq_ok.mp h
  have hw := weight_insert_of_present (fun n _ => (q n).toNat) hj
    (w := ⟨join.expectedTokens, join.arrivedTokens + 1⟩)
  simp only [RoutingState.load] at hw ⊢
  omega

theorem load_closeJoin (h : r.arrive n = .ok (r', true)) : (r'.closeJoin n).load q + (q n).toNat = r.load q := by
  obtain ⟨join,hj,_,hc⟩ := arrive_close h
  have hw := weight_erase (fun n _ => (q n).toNat) hj
  rw [hc]
  simp only [RoutingState.load] at hw ⊢
  omega

theorem awaited_openJoin (h : r.openJoin n count = .ok r') (m : NodeId) :
    r.awaited n = 0 ∧ r'.awaited m = r.awaited m + if n = m then count else 0 := by
  obtain ⟨_,hn,rfl⟩ := openJoin_eq_ok.mp h
  simp only [RoutingState.awaited, getElem?_insert_eq, hn]
  refine ⟨rfl,?_⟩
  split
  · rename_i heq
    subst heq
    simp [hn, PendingGatewayJoin.remaining]
  · rfl

theorem awaited_arrive (h : r.arrive n = .ok (r', false)) (m : NodeId) :
    r'.awaited m + (if n = m then 1 else 0) = r.awaited m := by
  obtain ⟨join,hj,hlt,rfl⟩ := arrive_open h
  simp only [RoutingState.awaited, getElem?_insert_eq]
  split
  · rename_i heq
    subst heq
    simp only [hj, Option.map_some, Option.getD_some, PendingGatewayJoin.remaining]
    omega
  · rfl

theorem awaited_closeJoin (h : r.arrive n = .ok (r', true)) (m : NodeId) :
    (r'.closeJoin n).awaited m + (if n = m then 1 else 0) = r.awaited m := by
  obtain ⟨join,hj,hl,hc⟩ := arrive_close h
  rw [hc]
  simp only [RoutingState.awaited, getElem?_erase_eq]
  split
  · rename_i heq
    subst heq
    simp only [hj, Option.map_some, Option.map_none, Option.getD_some, Option.getD_none,
      PendingGatewayJoin.remaining]
    omega
  · rfl

end Joins

section Scopes
variable {d : WorkflowDefinition} {r r' : RoutingState} {n p : NodeId} (q : NodeId → Bool)

theorem toNat_pos_iff {b : Bool} : 0 < b.toNat ↔ b = true := by cases b <;> simp

theorem instances_pos_iff : 0 < r.instances p ↔
    ∃ (id : ScopeInstanceId) (scope : ActiveExecutionScope), r.activeScopes[id]? = some scope ∧ scope.scopeNodeId = p := by
  simp only [RoutingState.instances, weight_pos_iff, toNat_pos_iff, beq_iff_eq]

theorem instances_eq_zero_iff : r.instances p = 0 ↔ scopeInstances r.activeScopes p = [] := by
  rw [← not_iff_not, ← ne_eq, ← Nat.pos_iff_ne_zero, instances_pos_iff]
  simp only [List.eq_nil_iff_forall_not_mem, mem_scopeInstances, not_forall, not_not]

theorem Placed.instances_le (h : Placed d r) (p : NodeId) : r.instances p ≤ 1 := by
  by_contra hc
  obtain ⟨id,scope,hs,rfl⟩ := instances_pos_iff.mp (Nat.zero_lt_of_lt (Nat.lt_of_not_le hc))
  have hw := weight_erase (fun _ s => (s.scopeNodeId == scope.scopeNodeId).toNat) hs
  have hle := Bool.toNat_le (scope.scopeNodeId == scope.scopeNodeId)
  obtain ⟨id',scope',hs',hpos⟩ := weight_pos_iff.mp (by simp only [RoutingState.instances] at hc; omega :
    0 < weight (fun _ s => (s.scopeNodeId == scope.scopeNodeId).toNat) (r.activeScopes.erase id))
  rw [getElem?_erase_eq] at hs'
  split at hs'
  · cases hs'
  · rename_i hne
    exact hne (h.one id id' scope scope' hs hs' (beq_iff_eq.mp (toNat_pos_iff.mp hpos)).symm)

variable {id : ScopeInstanceId} {parent : Option ScopeInstanceId} {invocation : Nat} {start : NodeId}
  {scope : ActiveExecutionScope}

theorem load_enterScope (h : r.enterScope n start parent = .ok (r', id, invocation))
    (hf : r.activeScopes[id]? = none) : r'.load q = r.load q + (q n).toNat := by
  obtain ⟨_,_,_,_,rfl⟩ := enterScope_eq_ok.mp h
  have hw := weight_insert_of_absent (fun _ scope => (q scope.scopeNodeId).toNat) hf
    (v := ⟨n, start, parent, invocation⟩)
  simp only [RoutingState.load] at hw ⊢
  omega

theorem instances_enterScope (h : r.enterScope n start parent = .ok (r', id, invocation))
    (hf : r.activeScopes[id]? = none) (m : NodeId) :
    r.instances n = 0 ∧ r'.instances m = r.instances m + (n == m).toNat := by
  obtain ⟨he,_,_,_,rfl⟩ := enterScope_eq_ok.mp h
  refine ⟨instances_eq_zero_iff.mpr he,?_⟩
  have hw := weight_insert_of_absent (fun _ scope => (scope.scopeNodeId == m).toNat) hf
    (v := ⟨n, start, parent, invocation⟩)
  simp only [RoutingState.instances] at hw ⊢
  omega

theorem load_completeScope (h : r.completeScope id n = .ok (r', scope)) : r'.load q + (q n).toNat = r.load q := by
  obtain ⟨hs,rfl,rfl⟩ := completeScope_eq_ok.mp h
  have hw := weight_erase (fun _ scope => (q scope.scopeNodeId).toNat) hs
  simp only [RoutingState.load] at hw ⊢
  omega

theorem instances_completeScope (h : r.completeScope id n = .ok (r', scope)) (m : NodeId) :
    r'.instances m + (n == m).toNat = r.instances m := by
  obtain ⟨hs,rfl,rfl⟩ := completeScope_eq_ok.mp h
  have hw := weight_erase (fun _ s => (s.scopeNodeId == m).toNat) hs
  simp only [RoutingState.instances] at hw ⊢
  omega

end Scopes

end BpmpPlatform
