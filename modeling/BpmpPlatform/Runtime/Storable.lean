import BpmpPlatform.Runtime.CompletionRuns

/-! # Storable states

The conditions that a persisted snapshot must meet hold after every event except two, the arrival that fills a join and
the start of a multi-instance activity without instances, both of which the next event repairs.
-/
namespace BpmpPlatform
open Std Outcome

def AllNamed (names : List String) : Prop := ∀ name ∈ names, Text.isBlank name = false

instance (names : List String) : Decidable (AllNamed names) := List.decidableBAll _ names

structure MultiInstanceStorable (a : ActiveMultiInstance) : Prop where
  total : a.totalInstances ≠ 0
  parallelism : a.maxParallelism ≠ 0
  next_le : a.nextIteration ≤ a.totalInstances
  parallelism_le : a.maxParallelism ≤ a.totalInstances
  running_le : a.activeIterations.size ≤ a.maxParallelism
  running_lt : ∀ i ∈ a.activeIterations, i < a.nextIteration
  finished_lt : ∀ i ∈ a.completedIterations, i < a.nextIteration
  disjoint : ∀ i ∈ a.activeIterations, i ∉ a.completedIterations
  items : a.items = [] ∨ a.items.length = a.totalInstances
  itemVariable : ∀ name, a.itemVariable = some name → Text.isBlank name = false

def BoundaryTrigger.isNamed : BoundaryTrigger → Bool
  | .timer _ expression => !Text.isBlank expression
  | .error errorRef => errorRef.all fun name => !Text.isBlank name
  | .message messageRef => !Text.isBlank messageRef

structure Storable (r : RoutingState) : Prop where
  tokens : TokensPositive r
  joins : JoinsOpen r
  multiInstances : ∀ (n : NodeId) a, r.activeMultiInstances[n]? = some a → MultiInstanceStorable a
  subscriptions : ∀ (id : NodeId) sub, r.activeBoundarySubscriptions[id]? = some sub → sub.trigger.isNamed = true
  scopes : ∀ (id : ScopeInstanceId) scope, r.activeScopes[id]? = some scope → scope.invocation ≠ 0
  counts : ∀ n : NodeId, r.scopeInvocationCounts[n]? ≠ some 0

/-- The two events that leave a state no snapshot can hold; `r` is the state before the event. -/
def Closing (r : RoutingState) : DomainEvent → Prop
  | .gatewayTokenArrived gatewayId _ =>
    ∃ join, r.pendingJoins[gatewayId]? = some join ∧ join.arrivedTokens + 1 = join.expectedTokens
  | .multiInstanceStarted _ _ _ totalInstances _ _ _ _ => totalInstances = 0
  | _ => False

/-- The events lead from the first state to the last, which is storable; on the way the state is storable
after every event but the closing ones. -/
inductive Cuts : List DomainEvent → RoutingState → RoutingState → Prop
  | done {r} (h : Storable r) : Cuts [] r r
  | keep {e es r r₁ r'} (ht : routeEvent r e = r₁) (hc : ¬Closing r e) (hs : Storable r₁) (h : Cuts es r₁ r') :
      Cuts (e :: es) r r'
  | close {e es r r₁ r'} (ht : routeEvent r e = r₁) (hc : Closing r e) (hs : ¬Storable r₁) (h : Cuts es r₁ r') :
      Cuts (e :: es) r r'

namespace Cuts
variable {r r₁ r₂ : RoutingState} {e : DomainEvent} {es fs : List DomainEvent}

theorem append (h₁ : Cuts es r r₁) (h₂ : Cuts fs r₁ r₂) : Cuts (es ++ fs) r r₂ := by
  induction h₁ with
  | done => exact h₂
  | keep ht hc hs _ ih => exact .keep ht hc hs (ih h₂)
  | close ht hc hs _ ih => exact .close ht hc hs (ih h₂)

theorem storable (h : Cuts es r r₁) : Storable r₁ := by
  induction h with
  | done h => exact h
  | keep _ _ _ _ ih | close _ _ _ _ ih => exact ih

theorem single (ht : routeEvent r e = r₁) (hc : ¬Closing r e) (hs : Storable r₁) : Cuts [e] r r₁ :=
  .keep ht hc hs (.done hs)

/-- Cut after any event, the state is storable exactly when the event is not a closing one. -/
theorem storable_iff (h : Cuts es r r₁) {before after : List DomainEvent} (he : es = before ++ e :: after) :
    Storable ((before ++ [e]).foldl routeEvent r) ↔ ¬Closing (before.foldl routeEvent r) e := by
  induction h generalizing before with
  | done => simp at he
  | keep ht hc hs _ ih | close ht hc hs _ ih =>
    cases before with
    | nil =>
      simp only [List.nil_append, List.cons.injEq] at he
      obtain ⟨rfl,_⟩ := he
      simp [ht, hs, hc]
    | cons =>
      simp only [List.cons_append, List.cons.injEq] at he
      obtain ⟨rfl,he⟩ := he
      simpa only [List.cons_append, List.foldl_cons, ht] using ih he

end Cuts

section Records
variable {a : ActiveMultiInstance}

theorem MultiInstanceStorable.advance (h : MultiInstanceStorable a) (hn : a.nextIteration < a.totalInstances)
    (hr : a.activeIterations.size < a.maxParallelism) : MultiInstanceStorable a.advance := by
  have hmem : ∀ i, i ∈ a.advance.activeIterations ↔ a.nextIteration = i ∨ i ∈ a.activeIterations := by
    intro i
    simp [ActiveMultiInstance.advance, ExtTreeSet.mem_insert]
  have hs : a.advance.activeIterations.size ≤ a.activeIterations.size + 1 := ExtTreeSet.size_insert_le
  refine ⟨h.total,h.parallelism,hn,h.parallelism_le,hs.trans hr,?_,?_,?_,h.items,h.itemVariable⟩
  · intro i hi
    rcases (hmem i).mp hi with rfl | hi
    · exact Nat.lt_succ_self _
    · exact (h.running_lt i hi).trans (Nat.lt_succ_self _)
  · intro i hi
    exact (h.finished_lt i hi).trans (Nat.lt_succ_self _)
  · intro i hi hd
    rcases (hmem i).mp hi with rfl | hi
    · exact Nat.lt_irrefl _ (h.finished_lt _ hd)
    · exact h.disjoint i hi hd

theorem MultiInstanceStorable.retire (h : MultiInstanceStorable a) {iteration : Nat}
    (hi : iteration ∈ a.activeIterations) : MultiInstanceStorable (a.retire iteration) := by
  have hrun : ∀ i, i ∈ (a.retire iteration).activeIterations ↔ iteration ≠ i ∧ i ∈ a.activeIterations := by
    intro i
    simp [ActiveMultiInstance.retire, ExtTreeSet.mem_erase]
  have hdo : ∀ i, i ∈ (a.retire iteration).completedIterations ↔ iteration = i ∨ i ∈ a.completedIterations := by
    intro i
    simp [ActiveMultiInstance.retire, ExtTreeSet.mem_insert]
  refine ⟨h.total,h.parallelism,h.next_le,h.parallelism_le,ExtTreeSet.size_erase_le.trans h.running_le,?_,?_,?_,
    h.items,h.itemVariable⟩
  · intro i hin
    exact h.running_lt i ((hrun i).mp hin).2
  · intro i hin
    rcases (hdo i).mp hin with rfl | hin
    · exact h.running_lt _ hi
    · exact h.finished_lt i hin
  · intro i hin hd
    obtain ⟨hne,hin⟩ := (hrun i).mp hin
    rcases (hdo i).mp hd with rfl | hd
    · exact hne rfl
    · exact h.disjoint i hin hd

variable {n : NodeId} {spec : MultiInstanceDefinition} {items : List WorkflowValue} {vars : Variables} {total : Nat}
  {d : WorkflowDefinition}

theorem materializeMultiInstance_items (h : materializeMultiInstance n spec vars = .ok (total, items)) :
    items = [] ∨ items.length = total := by
  simp only [materializeMultiInstance, bind_eq_ok] at h
  obtain ⟨found,hf,_,_,h⟩ := h
  split at h
  · simp only [pure_eq_ok, Prod.mk.injEq] at h
    obtain ⟨rfl,rfl⟩ := h
    exact .inr rfl
  · simp only [bind_eq_ok, ensure_eq_ok] at h
    obtain ⟨cardinality,_,_,hm,⟨⟩⟩ := h
    cases hc : spec.collectionExpression with
    | none =>
      simp only [collectionItems, hc] at hf
      cases hf
      exact .inl rfl
    | some =>
      simp only [hc, Option.isSome_some, Bool.true_and, Bool.not_eq_true', bne_eq_false_iff_eq] at hm
      exact .inr hm.symm

theorem effectiveParallelism_bounds (hd : d.Accepted) (hs : d.multiInstance n = some spec) (engine : EnginePolicy)
    (total : Nat) :
    1 ≤ effectiveParallelism engine spec total ∧ effectiveParallelism engine spec total ≤ max total 1 := by
  have hmax := hd.maxParallelism_ne_zero hs
  have hde := engine.parallelism_pos
  unfold effectiveParallelism
  cases spec.mode with
  | sequential => simp only; omega
  | parallel =>
    cases hc : spec.maxParallelism with
    | none => simp only [Option.getD_none]; omega
    | some k =>
      have hk : k ≠ 0 := by rintro rfl; exact hmax hc
      simp only [Option.getD_some]
      omega

theorem initialMultiInstance_storable (hd : d.Accepted) (hs : d.multiInstance n = some spec)
    (hn : ∀ name, spec.itemVariable = some name → Text.isBlank name = false) {taskType : TaskType}
    {engine : EnginePolicy} {r : RoutingState} (h : MultiInstanceStart taskType spec vars engine n r total items)
    (hpos : 0 < total) : MultiInstanceStorable (initialMultiInstance taskType spec engine total items) := by
  have hpar := effectiveParallelism_bounds hd hs engine total
  rw [Nat.max_eq_left hpos] at hpar
  refine ⟨Nat.ne_of_gt hpos,Nat.ne_of_gt hpar.1,Nat.zero_le _,hpar.2,Nat.zero_le _,?_,?_,?_,
    materializeMultiInstance_items h.materialized,hn⟩
  · intro i hi; simp [initialMultiInstance] at hi
  · intro i hi; simp [initialMultiInstance] at hi
  · intro i hi; simp [initialMultiInstance] at hi

end Records

end BpmpPlatform
