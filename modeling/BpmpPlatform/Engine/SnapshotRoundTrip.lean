import BpmpPlatform.Engine.SnapshotCodec
import BpmpPlatform.Runtime.Storable

/-! # Which snapshots can be read back

Decoding an encoded snapshot gives the snapshot back exactly when its routing state is storable and no
variable has a blank name.
-/
namespace BpmpPlatform
open Std Outcome InstanceState SnapshotCodec BoundaryTrigger Identifier Text

section Fields

variable {kind : IdentifierKind} {value field : String}

@[simp] theorem identifier_eq_ok {a : Identifier kind} : identifier kind value field = .ok a ↔ a.value = value := by
  rw [← new_eq_ok]
  unfold identifier
  cases new kind value <;> simp

theorem identifier_value (a : Identifier kind) (field : String) :
    identifier kind a.value field = .ok a := identifier_eq_ok.mpr rfl

@[simp] theorem nonEmpty_eq_ok_iff {result : String} :
    nonEmpty value field = .ok result ↔ isBlank value = false ∧ value = result := by
  unfold nonEmpty
  cases isBlank value <;> simp

/-- An optional text survives exactly when it is not a blank text. -/
theorem optionalNonEmpty_getD_iff {text : Option String} :
    optionalNonEmpty (text.getD "") = text ↔ ∀ name, text = some name → isBlank name = false := by
  cases text with
  | none =>
    have hbl : isBlank "" = true := by decide
    simp [optionalNonEmpty, hbl]
  | some name =>
    simp only [optionalNonEmpty, Option.getD_some, Option.some.injEq]
    cases hb : isBlank name <;> simp [hb]

mutual

theorem workflowValueFromWire_toWire : (value : WorkflowValue) →
    workflowValueFromWire (workflowValueToWire value) = .ok value
  | .boolean _ | .integer _ | .string _ => rfl
  | .list items => by
    simp only [workflowValueToWire, workflowValueFromWire, workflowValueItemsFromWire_toWire items]
    rfl

theorem workflowValueItemsFromWire_toWire : (items : List WorkflowValue) →
    workflowValueItemsFromWire (workflowValueItemsToWire items) = .ok items
  | [] => rfl
  | item :: rest => by
    simp only [workflowValueItemsToWire, workflowValueItemsFromWire, workflowValueFromWire_toWire item,
      workflowValueItemsFromWire_toWire rest]
    rfl

end

theorem workflowVariable_roundTrip {name name' : String} {value value' : WorkflowValue} :
    workflowVariableFromWire ⟨name, some (workflowValueToWire value)⟩ = .ok (name', value') ↔
      isBlank name = false ∧ name' = name ∧ value' = value := by
  simp only [workflowVariableFromWire, bind_eq_ok, nonEmpty_eq_ok_iff, okOr_eq_ok, Option.some.injEq,
    pure_eq_ok, Prod.mk.injEq]
  constructor
  · rintro ⟨_,⟨hb,rfl⟩,_,rfl,_,hv,rfl,rfl⟩
    rw [workflowValueFromWire_toWire] at hv
    cases hv
    exact ⟨hb,rfl,rfl⟩
  · rintro ⟨hb,rfl,rfl⟩
    exact ⟨_,⟨hb,rfl⟩,_,rfl,_,workflowValueFromWire_toWire _,rfl,rfl⟩

theorem lifecycle_roundTrip (lifecycle : Lifecycle) :
    lifecycleFromWire (lifecycleToWire lifecycle).1.code (lifecycleToWire lifecycle).2 = .ok lifecycle := by
  cases lifecycle with
  | initial | completed | terminatedForCompliance => rfl
  | active activeNode =>
    have hne : activeNode.value.isEmpty = false := by
      rw [String.isEmpty_eq_false_iff]
      intro h
      have hbl := activeNode.nonBlank
      rw [h] at hbl
      cases hbl
    simp only [lifecycleFromWire, lifecycleToWire, Wire.WorkflowLifecycle.code, Wire.WorkflowLifecycle.ofCode, okOr,
      hne, identifier_value]
    rfl

variable {n n' : NodeId} {a : ActiveMultiInstance} {count' count : Nat} {sub : ActiveBoundarySubscription}

theorem exists_keyed_iff {α β : Type} {c : Prop} {a a' : α} {b b' : β} :
    (∃ _ : Unit, c ∧ ∃ x, a = x ∧ x = a' ∧ b = b') ↔ c ∧ a' = a ∧ b' = b := by
  constructor
  · rintro ⟨_,hc,_,rfl,rfl,rfl⟩; exact ⟨hc,rfl,rfl⟩
  · rintro ⟨hc,rfl,rfl⟩; exact ⟨(),hc,_,rfl,rfl,rfl⟩

theorem activeToken_roundTrip :
    activeTokenFromWire ⟨n.value, count⟩ = .ok (n', count') ↔ count ≠ 0 ∧ n' = n ∧ count' = count := by
  simp only [activeTokenFromWire, bind_eq_ok, ensure_eq_ok, bne_iff_ne, identifier_value, pure_eq_ok,
    Prod.mk.injEq, Except.ok.injEq]
  exact exists_keyed_iff

theorem pendingGatewayJoin_roundTrip {join join' : PendingGatewayJoin} :
    pendingGatewayJoinFromWire ⟨n.value, join.expectedTokens, join.arrivedTokens⟩ = .ok (n', join') ↔
      join.arrivedTokens < join.expectedTokens ∧ n' = n ∧ join' = join := by
  have hc : (!(join.expectedTokens == 0 || decide (join.arrivedTokens ≥ join.expectedTokens))) = true ↔
      join.arrivedTokens < join.expectedTokens := by
    simp only [Bool.not_eq_true', Bool.or_eq_false_iff, beq_eq_false_iff_ne, decide_eq_false_iff_not]
    omega
  simp only [pendingGatewayJoinFromWire, bind_eq_ok, ensure_eq_ok, hc, identifier_value, pure_eq_ok,
    Prod.mk.injEq, Except.ok.injEq]
  exact exists_keyed_iff

theorem multiInstanceMode_roundTrip (mode : MultiInstanceMode) :
    multiInstanceModeFromWire (multiInstanceModeToWire mode) = .ok mode := by
  cases mode <;> rfl

theorem multiInstanceBoundsValid_iff {active : Wire.ActiveMultiInstance} :
    multiInstanceBoundsValid active = true ↔ active.totalInstances ≠ 0 ∧ active.maxParallelism ≠ 0 ∧
      active.nextIteration ≤ active.totalInstances ∧ active.maxParallelism ≤ active.totalInstances := by
  simp only [multiInstanceBoundsValid, Bool.not_eq_true', Bool.or_eq_false_iff, beq_eq_false_iff_ne,
    decide_eq_false_iff_not, gt_iff_lt, Nat.not_lt, and_assoc]

theorem activeMultiInstanceValid_iff :
    activeMultiInstanceValid a = true ↔ a.activeIterations.size ≤ a.maxParallelism ∧
      (∀ i, i ∈ a.activeIterations ∨ i ∈ a.completedIterations → i < a.totalInstances ∧ i < a.nextIteration) ∧
      (∀ i ∈ a.activeIterations, i ∉ a.completedIterations) ∧ (a.items = [] ∨ a.items.length = a.totalInstances) := by
  have hdi : (a.activeIterations.toList.all fun i => !a.completedIterations.contains i) = true ↔
      ∀ i ∈ a.activeIterations, i ∉ a.completedIterations := by
    simp [ExtTreeSet.contains_iff_mem, ← Bool.not_eq_true]
  have hite : (!a.items.isEmpty && a.items.length != a.totalInstances) = false ↔
      (a.items = [] ∨ a.items.length = a.totalInstances) := by
    simp [or_iff_not_imp_left]
  simp only [activeMultiInstanceValid, Bool.not_eq_true', Bool.or_eq_false_iff, Bool.not_eq_false', hdi, hite,
    decide_eq_false_iff_not, gt_iff_lt, Nat.not_lt, List.any_eq_false, List.mem_append, ExtTreeSet.mem_toList,
    Bool.or_eq_true, decide_eq_true_eq, not_or, ge_iff_le, Nat.not_le, and_assoc]

theorem multiInstanceStorable_iff :
    MultiInstanceStorable a ↔ multiInstanceBoundsValid (activeMultiInstanceToWire (n, a)) = true ∧
      activeMultiInstanceValid a = true ∧ ∀ name, a.itemVariable = some name → isBlank name = false := by
  rw [multiInstanceBoundsValid_iff, activeMultiInstanceValid_iff]
  constructor
  · intro h
    refine ⟨⟨h.total,h.parallelism,h.next_le,h.parallelism_le⟩,⟨h.running_le,?_,h.disjoint,h.items⟩, h.itemVariable⟩
    rintro i (hi | hi)
    · exact ⟨(h.running_lt i hi).trans_le h.next_le,h.running_lt i hi⟩
    · exact ⟨(h.finished_lt i hi).trans_le h.next_le,h.finished_lt i hi⟩
  · rintro ⟨⟨h₁,h₂,h₃,h₄⟩,⟨h₅,h₆,h₇,h₈⟩,h₉⟩
    exact ⟨h₁,h₂,h₃,h₄,h₅,fun i hi => (h₆ i (.inl hi)).2,fun i hi => (h₆ i (.inr hi)).2,h₇,h₈,h₉⟩

theorem activeMultiInstance_key {a' : ActiveMultiInstance}
    (h : activeMultiInstanceFromWire (activeMultiInstanceToWire (n, a)) = .ok (n', a')) : n' = n := by
  simp only [activeMultiInstanceFromWire, bind_eq_ok, pure_eq_ok, Prod.mk.injEq, identifier_eq_ok] at h
  obtain ⟨_,_,_,_,_,_,_,_,_,_,id,hid,rfl,_⟩ := h
  exact ext_value hid

theorem activeMultiInstance_roundTrip :
    activeMultiInstanceFromWire (activeMultiInstanceToWire (n, a)) = .ok (n, a) ↔ MultiInstanceStorable a := by
  have hite : workflowValueItemsFromWire (activeMultiInstanceToWire (n, a)).items = .ok a.items :=
    workflowValueItemsFromWire_toWire a.items
  have hm : multiInstanceModeFromWire (activeMultiInstanceToWire (n, a)).mode = .ok a.mode :=
    multiInstanceMode_roundTrip a.mode
  have ht : identifier .TaskType (activeMultiInstanceToWire (n, a)).taskType "multi_instance.task_type" =
      .ok a.taskType := identifier_value _ _
  have hn : identifier .NodeId (activeMultiInstanceToWire (n, a)).nodeId "multi_instance.node_id" = .ok n :=
    identifier_value _ _
  -- the decoded record differs from the original in the item variable only
  have hde : ∀ itemVariable, ActiveMultiInstance.mk a.taskType a.mode
      (activeMultiInstanceToWire (n, a)).totalInstances (activeMultiInstanceToWire (n, a)).nextIteration
      (activeMultiInstanceToWire (n, a)).maxParallelism itemVariable a.items
      (ExtTreeSet.ofList (activeMultiInstanceToWire (n, a)).activeIterations)
      (ExtTreeSet.ofList (activeMultiInstanceToWire (n, a)).completedIterations) =
        { a with itemVariable := itemVariable } := by
    intro itemVariable
    simp only [activeMultiInstanceToWire, set_ofList_toList]
  have heq : { a with itemVariable := optionalNonEmpty (activeMultiInstanceToWire (n, a)).itemVariable } = a ↔
      ∀ name, a.itemVariable = some name → isBlank name = false := by
    rw [← optionalNonEmpty_getD_iff]
    constructor
    · intro h
      exact congrArg ActiveMultiInstance.itemVariable h
    · intro h
      have hw : optionalNonEmpty (activeMultiInstanceToWire (n, a)).itemVariable = a.itemVariable := h
      rw [hw]
  simp only [activeMultiInstanceFromWire, bind_eq_ok, ensure_eq_ok, ht, hm, hite, hn,
    pure_eq_ok, Prod.mk.injEq, Except.ok.injEq, multiInstanceStorable_iff (n := n)]
  constructor
  · rintro ⟨_,h₁,_,rfl,_,rfl,_,rfl,_,h₂,_,rfl,_,h₃⟩
    rw [hde] at h₂ h₃
    exact ⟨h₁,h₂,heq.mp h₃⟩
  · rintro ⟨h₁,h₂,h₃⟩
    refine ⟨(),h₁,_,rfl,_,rfl,_,rfl,(),?_,_,rfl,rfl,?_⟩
    · rw [hde]; exact h₂
    · rw [hde]; exact heq.mpr h₃

theorem triggerFrom_roundTrip {ε : Type} {invalid : ε} {text : String → Except ε String} {trigger : BoundaryTrigger}
    (ht : ∀ value result, text value = .ok result ↔ isBlank value = false ∧ value = result) :
    triggerFrom invalid (text (boundaryTriggerToWire trigger).2) (text (boundaryTriggerToWire trigger).2)
      (optionalNonEmpty (boundaryTriggerToWire trigger).2) (boundaryTriggerToWire trigger).1 = .ok trigger ↔
      trigger.isNamed = true := by
  cases trigger with
  | timer kind => cases kind <;> simp [boundaryTriggerToWire, isNamed, ht]
  | error =>
    simp only [boundaryTriggerToWire, triggerFrom, isNamed, Except.ok.injEq,
      BoundaryTrigger.error.injEq, optionalNonEmpty_getD_iff, Option.all_eq_true, Bool.not_eq_true']
  | message => simp [boundaryTriggerToWire, isNamed, ht]

theorem boundaryTrigger_roundTrip {trigger : BoundaryTrigger} :
    boundaryTriggerFromWire (boundaryTriggerToWire trigger).1 (boundaryTriggerToWire trigger).2 = .ok trigger ↔
      trigger.isNamed = true := triggerFrom_roundTrip fun _ _ => nonEmpty_eq_ok_iff

theorem activeBoundarySubscription_key {sub' : ActiveBoundarySubscription}
    (h : activeBoundarySubscriptionFromWire (activeBoundarySubscriptionToWire (n, sub)) = .ok (n', sub')) :
    n' = n := by
  simp only [activeBoundarySubscriptionFromWire, bind_eq_ok, identifier_eq_ok, pure_eq_ok,
    Prod.mk.injEq] at h
  obtain ⟨id,hid,_,_,_,_,_,_,rfl,_⟩ := h
  exact ext_value hid

theorem activeBoundarySubscription_roundTrip :
    activeBoundarySubscriptionFromWire (activeBoundarySubscriptionToWire (n, sub)) = .ok (n, sub) ↔
      sub.trigger.isNamed = true := by
  rw [← boundaryTrigger_roundTrip]
  simp only [activeBoundarySubscriptionFromWire, activeBoundarySubscriptionToWire, bind_eq_ok, identifier_value,
    pure_eq_ok, Prod.mk.injEq, Except.ok.injEq]
  constructor
  · rintro ⟨_,rfl,_,rfl,_,rfl,trigger,ht,_,hsub⟩
    rw [ht, ← congrArg ActiveBoundarySubscription.trigger hsub]
  · intro ht
    exact ⟨_,rfl,_,rfl,_,rfl,_,ht,rfl,rfl⟩

theorem parent_roundTrip (parent : Option ScopeInstanceId) :
    parentFromWire (parent.map Identifier.value) = .ok parent := by
  cases parent with
  | none => rfl
  | some => simp [parentFromWire]

theorem activeExecutionScope_roundTrip {id id' : ScopeInstanceId} {scope scope' : ActiveExecutionScope} :
    activeExecutionScopeFromWire (activeExecutionScopeToWire (id, scope)) = .ok (id', scope') ↔
      scope.invocation ≠ 0 ∧ id' = id ∧ scope' = scope := by
  simp only [activeExecutionScopeFromWire, activeExecutionScopeToWire, bind_eq_ok, ensure_eq_ok, bne_iff_ne,
    identifier_value, parent_roundTrip, pure_eq_ok, Prod.mk.injEq, Except.ok.injEq]
  constructor
  · rintro ⟨_,hne,_,rfl,_,rfl,_,rfl,_,rfl,rfl,rfl⟩; exact ⟨hne,rfl,rfl⟩
  · rintro ⟨hne,rfl,rfl⟩; exact ⟨(),hne,_,rfl,_,rfl,_,rfl,_,rfl,rfl,rfl⟩

theorem scopeInvocationCounter_roundTrip :
    scopeInvocationCounterFromWire ⟨n.value, count⟩ = .ok (n', count') ↔ count ≠ 0 ∧ n' = n ∧ count' = count := by
  simp only [scopeInvocationCounterFromWire, bind_eq_ok, ensure_eq_ok, bne_iff_ne, identifier_value,
    pure_eq_ok, Prod.mk.injEq, Except.ok.injEq]
  exact exists_keyed_iff

theorem casePlanItem_roundTrip (id : PlanItemId) (item : CasePlanItemState) :
    casePlanItemFromWire ⟨id.value, casePlanItemKindName item.kind, casePlanItemStatusName item.status⟩ =
      .ok (id, item) := by
  have hk : casePlanItemKindFromWire (casePlanItemKindName item.kind) = .ok item.kind := by
    cases item.kind <;> rfl
  have hs : casePlanItemStatusFromWire (casePlanItemStatusName item.status) = .ok item.status := by
    cases item.status <;> rfl
  simp only [casePlanItemFromWire, hk, hs, identifier_value]
  rfl

theorem activeCase_roundTrip (id : CaseId) (active : ActiveCase) :
    activeCaseFromWire (activeCaseToWire (id, active)) = .ok (id, active) := by
  have hl : caseLifecycleFromWire (caseLifecycleName active.lifecycle) = .ok active.lifecycle := by
    cases active.lifecycle <;> rfl
  have hite : collectMap casePlanItemFromWire (active.planItems.toList.map fun item =>
      ⟨item.1.value, casePlanItemKindName item.2.kind, casePlanItemStatusName item.2.status⟩) =
        .ok active.planItems := by
    refine (collectMap_toList_eq_ok ?_ _).mpr fun k v _ => casePlanItem_roundTrip k v
    intro k v k' v' h
    rw [casePlanItem_roundTrip] at h
    cases h
    rfl
  have hse : collectAll (fun id => identifier .SentryId id "case.satisfied_sentry_id")
      (active.satisfiedSentries.toList.map Identifier.value) = .ok active.satisfiedSentries.toList :=
    collectAll_map_eq_ok fun id _ => identifier_value id _
  simp only [activeCaseFromWire, activeCaseToWire, bind_eq_ok, hl, hite, identifier_value, hse,
    pure_eq_ok, Except.ok.injEq]
  refine ⟨_,rfl,_,rfl,_,rfl,_,rfl,_,rfl,?_⟩
  rw [set_ofList_toList]

end Fields

section Snapshot
variable {snapshot : SnapshotEnvelope}

/-- The maps of a snapshot are read back exactly when the state is storable. -/
theorem storable_iff_collected :
    (collectMap activeTokenFromWire (snapshotToWire snapshot).activeTokens = .ok snapshot.state.activeTokens ∧
      collectMap pendingGatewayJoinFromWire (snapshotToWire snapshot).pendingGatewayJoins =
        .ok snapshot.state.pendingGatewayJoins ∧
      collectMap activeMultiInstanceFromWire (snapshotToWire snapshot).activeMultiInstances =
        .ok snapshot.state.activeMultiInstances ∧
      collectMap activeBoundarySubscriptionFromWire (snapshotToWire snapshot).activeBoundarySubscriptions =
        .ok snapshot.state.activeBoundarySubscriptions ∧
      collectMap activeExecutionScopeFromWire (snapshotToWire snapshot).activeScopes =
        .ok snapshot.state.activeScopes ∧
      collectMap scopeInvocationCounterFromWire (snapshotToWire snapshot).scopeInvocationCounters =
        .ok snapshot.state.scopeInvocationCounts) ↔ Storable snapshot.state.routing := by
  simp only [snapshotToWire]
  rw [collectMap_toList_eq_ok fun k v k' v' h => (activeToken_roundTrip.mp h).2.1,
    collectMap_toList_eq_ok fun k v k' v' h => (pendingGatewayJoin_roundTrip.mp h).2.1,
    collectMap_toList_eq_ok fun k v k' v' h => activeMultiInstance_key h,
    collectMap_toList_eq_ok fun k v k' v' h => activeBoundarySubscription_key h,
    collectMap_toList_eq_ok fun k v k' v' h => (activeExecutionScope_roundTrip.mp h).2.1,
    collectMap_toList_eq_ok fun k v k' v' h => (scopeInvocationCounter_roundTrip.mp h).2.1]
  simp only [activeToken_roundTrip, pendingGatewayJoin_roundTrip, activeMultiInstance_roundTrip,
    activeBoundarySubscription_roundTrip, activeExecutionScope_roundTrip, scopeInvocationCounter_roundTrip, and_true]
  constructor
  · rintro ⟨h₁,h₂,h₃,h₄,h₅,h₆⟩
    exact ⟨fun n hn => h₁ n 0 hn rfl,h₂,h₃,h₄,h₅,fun n hn => h₆ n 0 hn rfl⟩
  · intro h
    refine ⟨?_,h.joins,h.multiInstances,h.subscriptions,h.scopes,?_⟩
    · rintro n count hn rfl; exact h.tokens n hn
    · rintro n count hn rfl; exact h.counts n hn

theorem vars_collected_iff :
    collectMap workflowVariableFromWire (snapshotToWire snapshot).vars = .ok snapshot.state.vars ↔
      ∀ name value, snapshot.state.vars[name]? = some value → isBlank name = false := by
  simp only [snapshotToWire]
  rw [collectMap_toList_eq_ok fun k v k' v' h => (workflowVariable_roundTrip.mp h).2.1]
  simp only [workflowVariable_roundTrip, and_true]

theorem cases_collected :
    collectMap activeCaseFromWire (snapshotToWire snapshot).activeCases = .ok snapshot.state.activeCases := by
  refine (collectMap_toList_eq_ok ?_ _).mpr fun k v _ => activeCase_roundTrip k v
  intro k v k' v' h
  rw [activeCase_roundTrip] at h
  cases h
  rfl

/-- A snapshot is read back unchanged exactly when its routing state is storable and its variables have
names. -/
theorem decode_encode_iff (format : MessageFormat Wire.WorkflowSnapshot) :
    decode format (encode format snapshot) = .ok snapshot ↔ Storable snapshot.state.routing ∧
        ∀ name value, snapshot.state.vars[name]? = some value → isBlank name = false := by
  have hw : decode format (encode format snapshot) =
      snapshotFromWire (snapshotToWire snapshot) := by
    simp only [decode, encode, format.decode_encode]
    rfl
  have hl : lifecycleFromWire (snapshotToWire snapshot).lifecycle (snapshotToWire snapshot).activeNodeId =
      .ok snapshot.state.lifecycle := lifecycle_roundTrip _
  have hid {kind : IdentifierKind} (a : Identifier kind) (field : String) := identifier_value a field
  rw [hw, ← storable_iff_collected, ← vars_collected_iff]
  simp only [snapshotFromWire, bind_eq_ok, ensure_eq_ok, hl, cases_collected, pure_eq_ok,
    Except.ok.injEq]
  constructor
  · rintro ⟨_,_,_,_,_,h₁,_,h₂,_,h₃,_,h₄,_,h₅,_,h₆,_,_,_,_,_,_,_,_,_,_,_,h₇,_,_,_,_,_,_,heq⟩
    have field {α : Type} (f : InstanceState → α) := congrArg (fun e : SnapshotEnvelope => Except.ok
      (ε := SnapshotCodecError) (f e.state)) heq
    exact ⟨⟨h₁.trans (field activeTokens),h₂.trans (field pendingGatewayJoins), h₃.trans (field activeMultiInstances),
      h₄.trans (field activeBoundarySubscriptions),h₅.trans (field activeScopes),
      h₆.trans (field scopeInvocationCounts)⟩,h₇.trans (field vars)⟩
  · rintro ⟨⟨h₁,h₂,h₃,h₄,h₅,h₆⟩,h₇⟩
    exact ⟨(),rfl,_,rfl,_,h₁,_,h₂,_,h₃,_,h₄,_,h₅,_,h₆,_,rfl,_,hid _ _,_,hid _ _,_,hid _ _,_,hid _ _,_,h₇,_,hid _ _,
      _,hid _ _,_,hid _ _,rfl⟩

end Snapshot

end BpmpPlatform
