import BpmpPlatform.Runtime.Subscriptions

/-! # Boundary subscriptions over whole runs

Every operation on the routing state keeps the subscriptions equal to the boundary events of the active
nodes, so every reachable state has them.
-/
namespace BpmpPlatform
open Std Outcome RoutingState

section Operations
variable {d : WorkflowDefinition} {r r₁ r₂ : RoutingState} {n finish start : NodeId} {node : Node} {next : NodeId}
  {occurredAt invocation : Nat} {events : List DomainEvent} {id : ScopeInstanceId} {parent : Option ScopeInstanceId}

theorem Subscribed.activateTask (hd : d.Accepted) (h : Subscribed d r) (hn : d.nodes[n]? = some node)
    (hact : node.activityNext = some next) (hmi : d.multiInstance n = none) (ht : r.activateTask n = .ok r₁)
    (harm : armBoundaryEvents d n occurredAt r₁ = .ok (events, r₂)) : Subscribed d r₂ := by
  obtain ⟨_,rfl⟩ := activateTask_eq_ok.mp ht
  refine h.arm hd harm { h with tokens := fun m hm => ?_ } rfl ?_ ?_
  · rw [getElem?_insert_eq] at hm
    split at hm
    · rename_i heq
      subst heq
      exact ⟨node,hn,by rw [hact]; rfl,hmi⟩
    · exact h.tokens m hm
  · intro m
    simp only [NodeActive, getElem?_insert_eq]
    by_cases hmn : n = m
    · simp [hmn]
    · simp [hmn, Ne.symm hmn]
  · intro m hm hi
    simp only [getElem?_insert_eq]
    split
    · rename_i heq
      -- a second token would have found its boundary events armed
      have hno : r.activeTokens[n]? = none := by
        by_contra hne
        exact hi heq.symm (.inl hne)
      simp [hno]
    · exact h.single m hm

theorem Subscribed.withMultiInstance (hd : d.Accepted) (h : Subscribed d r) (hn : d.nodes[n]? = some node)
    (hact : node.activityNext = some next) (hmi : d.multiInstance n ≠ none) {active : ActiveMultiInstance}
    (harm : armBoundaryEvents d n occurredAt (r.withMultiInstance n active) = .ok (events, r₂)) :
    Subscribed d r₂ := by
  refine h.arm hd harm { h with iterations := fun m hm => ?_ } rfl ?_ ?_
  · simp only [RoutingState.withMultiInstance, getElem?_insert_eq] at hm
    split at hm
    · rename_i heq
      subst heq
      exact ⟨node,hn,by rw [hact]; rfl,hmi⟩
    · exact h.iterations m hm
  · intro m
    simp only [NodeActive, RoutingState.withMultiInstance, getElem?_insert_eq]
    by_cases hmn : n = m
    · simp [hmn]
    · simp [hmn, Ne.symm hmn]
  · intro m hm _
    exact h.single m hm

theorem Subscribed.updateMultiInstance (h : Subscribed d r) (hin : r.activeMultiInstances[n]? ≠ none)
    (active : ActiveMultiInstance) : Subscribed d (r.withMultiInstance n active) := by
  have hs : ∀ m : NodeId, (r.withMultiInstance n active).activeMultiInstances[m]? ≠ none ↔
      r.activeMultiInstances[m]? ≠ none := by
    intro m
    simp only [RoutingState.withMultiInstance, getElem?_insert_eq]
    split
    · rename_i heq
      subst heq
      simp [hin]
    · rfl
  refine ⟨⟨h.tokens,fun m hm => h.iterations m ((hs m).mp hm),h.scopes,h.one⟩,h.single,?_⟩
  refine h.armed.congr ?_
  intro m
  rw [NodeActive, hs m]
  rfl

/-- The key of a new scope is free: another scope with it would be of the same sub-process. -/
theorem Placed.fresh_scope (hu : UnambiguousScopes d) (h : Placed d r)
    (hn : d.nodes[n]? = some (.subProcess start finish next)) (he : scopeInstances r.activeScopes n = [])
    (hid : id.value = scopeIdentity parent n invocation) : r.activeScopes[id]? = none := by
  cases hs : r.activeScopes[id]? with
  | none => rfl
  | some scope =>
    obtain ⟨⟨node',hn',hsub⟩,hid'⟩ := h.scopes id scope hs
    have heq := hu.scopeIdentity_inj hn' hn hsub rfl (hid'.symm.trans hid)
    have hmem : id ∈ scopeInstances r.activeScopes n := mem_scopeInstances.mpr ⟨scope,hs,heq⟩
    rw [he] at hmem
    cases hmem

theorem Subscribed.enterScope (hd : d.Accepted) (hu : UnambiguousScopes d) (h : Subscribed d r)
    (hn : d.nodes[n]? = some (.subProcess start finish next))
    (he : r.enterScope n start parent = .ok (r₁, id, invocation))
    (harm : armBoundaryEvents d n occurredAt r₁ = .ok (events, r₂)) : Subscribed d r₂ := by
  obtain ⟨hem,_,_,hid,rfl⟩ := enterScope_eq_ok.mp he
  have hf := h.fresh_scope hu hn hem hid
  -- a scope of the new map is the new one or an old one
  have hmem : ∀ (k : ScopeInstanceId) (scope : ActiveExecutionScope),
      (r.activeScopes.insert id ⟨n, start, parent, invocation⟩)[k]? = some scope ↔
        (k = id ∧ scope = ⟨n, start, parent, invocation⟩) ∨ r.activeScopes[k]? = some scope := by
    intro k scope
    rw [getElem?_insert_eq]
    by_cases hk : id = k
    · subst hk
      simp [hf, eq_comm]
    · simp [hk, Ne.symm hk]
  have hno : ∀ (k : ScopeInstanceId) (scope : ActiveExecutionScope), r.activeScopes[k]? = some scope →
      scope.scopeNodeId ≠ n := by
    intro k scope hk heq
    have hin : k ∈ scopeInstances r.activeScopes n := mem_scopeInstances.mpr ⟨scope,hk,heq⟩
    rw [hem] at hin
    cases hin
  refine h.arm hd harm ⟨h.tokens,h.iterations,?_,?_⟩ rfl ?_ (fun m hm _ => h.single m hm)
  · intro k scope hk
    rcases (hmem k scope).mp hk with ⟨rfl,rfl⟩ | hk
    · exact ⟨⟨_,hn,rfl⟩,hid⟩
    · exact h.scopes k scope hk
  · intro k k' scope scope' hk hk' heq
    rcases (hmem k scope).mp hk with ⟨rfl,rfl⟩ | hold
    · rcases (hmem k' scope').mp hk' with ⟨rfl,rfl⟩ | hold'
      · rfl
      · exact absurd heq.symm (hno k' scope' hold')
    · rcases (hmem k' scope').mp hk' with ⟨rfl,rfl⟩ | hold'
      · exact absurd heq (hno k scope hold)
      · exact h.one k k' scope scope' hold hold' heq
  · intro m
    simp only [NodeActive, hmem]
    constructor
    · rintro (ht | hi | ⟨k,scope,⟨rfl,rfl⟩ | hk,rfl⟩)
      · exact .inl (.inl ht)
      · exact .inl (.inr (.inl hi))
      · exact .inr rfl
      · exact .inl (.inr (.inr ⟨k,scope,hk,rfl⟩))
    · rintro ((ht | hi | ⟨k,scope,hk,rfl⟩) | rfl)
      · exact .inl ht
      · exact .inr (.inl hi)
      · exact .inr (.inr ⟨k,scope,.inr hk,rfl⟩)
      · exact .inr (.inr ⟨id,_,.inl ⟨rfl,rfl⟩,rfl⟩)

theorem releaseTokens_getElem? (tokens : ExtTreeMap NodeId Nat) (n m : NodeId) (k : Nat) :
    (releaseTokens tokens n k)[m]? = if n = m ∧ tokens[n]?.getD 0 ≤ k then none
      else if n = m then tokens[n]?.map (· - k) else tokens[m]? := by
  unfold releaseTokens
  cases hc : tokens[n]? with
  | none =>
    by_cases hm : n = m
    · subst hm; simp [hc]
    · simp [hm]
  | some count =>
    by_cases hle : count ≤ k
    · have h0 : count - k = 0 := by omega
      simp only [h0, ↓reduceIte, getElem?_erase_eq, Option.getD_some, hle, and_true]
      split
      · rfl
      · rfl
    · have h0 : count - k ≠ 0 := by omega
      simp only [h0, ↓reduceIte, getElem?_insert_eq, Option.getD_some, hle, and_false, Option.map_some]

theorem releaseTokens_le (tokens : ExtTreeMap NodeId Nat) (n m : NodeId) (k : Nat) :
    (releaseTokens tokens n k)[m]?.getD 0 ≤ tokens[m]?.getD 0 := by
  rw [releaseTokens_getElem?]
  split
  · simp
  · split
    · rename_i heq
      subst heq
      cases tokens[n]? <;> simp
    · exact Nat.le_refl _

theorem releaseTokens_ne_none {tokens : ExtTreeMap NodeId Nat} {n m : NodeId} {k : Nat}
    (h : (releaseTokens tokens n k)[m]? ≠ none) : tokens[m]? ≠ none := by
  rw [releaseTokens_getElem?] at h
  split at h
  · exact absurd rfl h
  · split at h
    · rename_i heq
      subst heq
      simpa using h
    · exact h

/-- Tokens and iterations taken from a node, together with its boundary events. -/
theorem Subscribed.retract (h : Subscribed d r) (ht : r₁.activeTokens = releaseTokens r.activeTokens n 1)
    (hm : ∀ m : NodeId, r₁.activeMultiInstances[m]? = if n = m then none else r.activeMultiInstances[m]?)
    (hs : r₁.activeScopes = r.activeScopes) (hsn : scopeInstances r.activeScopes n = [])
    (hb : r₁.activeBoundarySubscriptions = r.activeBoundarySubscriptions) : Subscribed d (r₁.disarmBoundaries n) := by
  refine h.disarm ⟨?_,?_,?_,?_⟩ hb ?_ ?_ ?_
  · intro m hto
    rw [ht] at hto
    exact h.tokens m (releaseTokens_ne_none hto)
  · intro m hi
    rw [hm m] at hi
    split at hi
    · exact absurd rfl hi
    · exact h.iterations m hi
  · rw [hs]; exact h.scopes
  · rw [hs]; exact h.one
  · intro m hne
    rw [NodeActive, NodeActive, ht, hm m, hs, releaseTokens_getElem?, if_neg (fun hc => hne hc.1.symm),
      if_neg (Ne.symm hne), if_neg (Ne.symm hne)]
  · rintro hne (hto | hi | ⟨id,scope,hsc,rfl⟩)
    · rw [ht, releaseTokens_getElem?, if_pos ⟨rfl,h.single n hne⟩] at hto
      exact hto rfl
    · exact hi ((hm n).trans (if_pos rfl))
    · rw [hs] at hsc
      have hin := mem_scopeInstances.mpr ⟨scope,hsc,rfl⟩
      rw [hsn] at hin
      cases hin
  · intro m
    rw [ht]
    exact releaseTokens_le _ _ _ _

theorem Placed.scopeInstances_of_activity (h : Placed d r) (hn : d.nodes[n]? = some node)
    (hact : node.activityNext = some next) : scopeInstances r.activeScopes n = [] := by
  rw [List.eq_nil_iff_forall_not_mem]
  intro id hid
  obtain ⟨scope,hs,rfl⟩ := mem_scopeInstances.mp hid
  exact h.no_scope hs hn (by rw [hact]; rfl)

theorem Subscribed.completeTask (h : Subscribed d r) (hn : d.nodes[n]? = some node)
    (hact : node.activityNext = some next) (hc : r.completeTask n = .ok r₁) :
    Subscribed d (r₁.disarmBoundaries n) := by
  obtain ⟨count,hcnt,rfl⟩ := completeTask_eq_ok.mp hc
  refine h.retract rfl (fun m => ?_) rfl (h.scopeInstances_of_activity hn hact) rfl
  split
  · rename_i heq
    subst heq
    exact h.no_iterations (by rw [hcnt]; simp)
  · rfl

theorem Subscribed.finishMultiInstance (h : Subscribed d r)
    (hi : r.activeMultiInstances[n]? ≠ none) : Subscribed d ((r.finishMultiInstance n).disarmBoundaries n) := by
  obtain ⟨node,hn,hact,hmi⟩ := h.iterations n hi
  obtain ⟨next,hact⟩ := Option.isSome_iff_exists.mp hact
  have hno : r.activeTokens[n]? = none := by_contra fun hne => hi (h.no_iterations hne)
  have hre : releaseTokens r.activeTokens n 1 = r.activeTokens := by
    simp only [releaseTokens, hno]
  exact h.retract hre.symm (fun m => getElem?_erase_eq _ _ _) rfl (h.scopeInstances_of_activity hn hact) rfl

theorem Subscribed.completeScope (h : Subscribed d r) {scope : ActiveExecutionScope}
    (hc : r.completeScope id n = .ok (r₁, scope)) : Subscribed d (r₁.disarmBoundaries n) := by
  obtain ⟨hs,rfl,rfl⟩ := completeScope_eq_ok.mp hc
  have hmem : ∀ (k : ScopeInstanceId) (s : ActiveExecutionScope), (r.activeScopes.erase id)[k]? = some s →
      r.activeScopes[k]? = some s ∧ k ≠ id := by
    intro k s hk
    rw [getElem?_erase_eq] at hk
    split at hk
    · cases hk
    · rename_i hne
      exact ⟨hk,Ne.symm hne⟩
  have hg : ∀ (k : ScopeInstanceId) (s : ActiveExecutionScope), (r.activeScopes.erase id)[k]? = some s →
      s.scopeNodeId ≠ scope.scopeNodeId := by
    intro k s hk heq
    obtain ⟨hk,hne⟩ := hmem k s hk
    exact hne (h.one k id s scope hk hs heq)
  refine h.disarm ⟨h.tokens,h.iterations,fun k s hk => h.scopes k s (hmem k s hk).1,
    fun k k' s s' hk hk' => h.one k k' s s' (hmem k s hk).1 (hmem k' s' hk').1⟩ rfl ?_ ?_ (fun m => Nat.le_refl _)
  · intro m hne
    simp only [NodeActive]
    refine or_congr_right (or_congr_right ?_)
    constructor
    · rintro ⟨k,s,hk,rfl⟩
      exact ⟨k,s,(hmem k s hk).1,rfl⟩
    · rintro ⟨k,s,hk,rfl⟩
      refine ⟨k,s,?_,rfl⟩
      rw [getElem?_erase_eq, if_neg]
      · exact hk
      · rintro rfl
        rw [hs, Option.some.injEq] at hk
        exact hne (by rw [hk])
  · intro _ ha
    obtain ⟨k,s,hk,heq⟩ := h.scope_only hs ha rfl rfl
    exact hg k s hk heq

theorem Subscribed.interrupt {s : InstanceState} (h : Subscribed d s.routing) (hpos : TokensPositive s.routing)
    (hi : scopeInstances s.activeScopes n = []) (hr : interruptActivity s true n = .ok r₁) : Subscribed d r₁ := by
  rw [interruptActivity_routing hpos hr]
  exact h.retract rfl (fun m => getElem?_erase_eq _ _ _) rfl hi rfl

end Operations

section Runs
variable {d : WorkflowDefinition} {engine : EnginePolicy} {occurredAt : Nat} {current : NodeId}
  {scope : Option ScopeInstanceId} {p p' : Progress} {events : List DomainEvent} {r : RoutingState}

section Reached
variable (hd : d.Accepted) (hu : UnambiguousScopes d)
include hd hu

theorem Activates.subscribed (h : Activates d engine occurredAt current scope p events p')
    (hs : Subscribed d p.routing) : Subscribed d p'.routing := by
  cases h with
  | task hn hact hmi he ht ha => exact hs.activateTask hd hn hact hmi ht ha
  | multiInstance hn hact hmi hst ha =>
    obtain ⟨_,active,rfl⟩ := startMultiInstance_runs hst
    exact hs.withMultiInstance hd hn hact (by rw [hmi]; simp) ha
  | emptyMultiInstance hn hact hmi hst =>
    rw [startMultiInstance_skips hst]
    exact hs
  | decision => exact hs
  | scopeEnd hn ho hsc hc => exact hs.completeScope hc
  | branchEnd | completed | start | exclusive => exact hs
  | split hn hsel ho =>
    obtain ⟨_,_,rfl⟩ := openJoin_eq_ok.mp ho
    exact hs.of_eq rfl rfl rfl rfl
  | arrive hn hj ha =>
    obtain ⟨_,_,_,rfl⟩ := arrive_open ha
    exact hs.of_eq rfl rfl rfl rfl
  | join hn hj ha =>
    obtain ⟨_,_,_,hcl⟩ := arrive_close ha
    rw [hcl]
    exact hs.of_eq rfl rfl rfl rfl
  | enter hn he ha => exact hs.enterScope hd hu hn he ha

theorem Runs.subscribed (h : Runs d engine occurredAt p events r) (hs : Subscribed d p.routing) : Subscribed d r := by
  induction h with
  | done => exact hs
  | step hp ha hr ih => exact ih (ha.subscribed hd hu hs)

variable {s : InstanceState} {context : DecisionContext} {command : Command} {nodeId : NodeId}

theorem IterationOutcome.subscribed {next : NodeId} {r₁ : RoutingState} (hs : Subscribed d r₁)
    (hin : r₁.activeMultiInstances[nodeId]? ≠ none)
    (h : IterationOutcome d s context nodeId next occurredAt r₁ events r) : Subscribed d r := by
  cases h with
  | finished _ hr => exact hr.subscribed hd hu (hs.finishMultiInstance hin)
  | advanced ha =>
    obtain ⟨active,_,_,_,_,rfl,_⟩ := activateNextMultiInstance_eq_ok.mp ha
    exact hs.updateMultiInstance hin _
  | waiting => exact hs

theorem Decides.subscribed (hpos : TokensPositive s.routing) (hs : Subscribed d s.routing)
    (h : Decides d s context command events r) : Subscribed d r := by
  cases h with
  | activateCase | evaluateCaseSentries => exact hs
  | start hl hn hr => exact hr.subscribed hd hu hs
  | task hl hn hact he hc hsc hr => exact hr.subscribed hd hu (hs.completeTask hn hact hc)
  | @iteration nodeId _ _ iteration _ _ _ _ _ _ hl hn hact hmi hc ho =>
    obtain ⟨active,ha,_,rfl,_⟩ := completeMultiInstanceIteration_eq_ok.mp hc
    have hin : s.routing.activeMultiInstances[nodeId]? ≠ none := by rw [ha]; simp
    refine ho.subscribed hd hu (hs.updateMultiInstance hin (active.retire iteration)) ?_
    simp [withMultiInstance]
  | @trigger _ _ subscription _ boundary _ _ _ _ _ _ _ hl hsub hb hm ho hi hu' hr₁ hsc hr =>
    refine hr.subscribed hd hu ?_
    cases hca : boundary.cancelActivity with
    | true =>
      rw [hca] at hr₁
      exact hs.interrupt hpos (hi hca) hr₁
    | false =>
      rw [hca] at hr₁
      cases hr₁
      exact hs

theorem Reachable.subscribed (h : Reachable d s) : Subscribed d s.routing := by
  induction h with
  | initial =>
    refine ⟨⟨?_,?_,?_,?_⟩,?_,⟨?_,?_⟩⟩ <;> simp [InstanceState.routing, NodeActive]
  | @step s command context events hs h ih =>
    obtain ⟨r,hr⟩ := decideEvents_eq_ok.mp h
    rw [decideRouting_agrees hs hr]
    exact (decideRouting_decides hr).subscribed hd hu hs.tokensPositive ih

end Reached

theorem ownerActive_iff (hpos : TokensPositive s.routing) (n : NodeId) :
    OwnerActive s n ↔ NodeActive s.routing n := by
  have hto : s.activeTokens[n]?.getD 0 ≠ 0 ↔ s.activeTokens[n]? ≠ none := by
    have h0 : s.activeTokens[n]? ≠ some 0 := hpos n
    cases hc : s.activeTokens[n]? with
    | none => simp
    | some =>
      rw [hc] at h0
      simpa using h0
  have hs : scopeInstances s.activeScopes n ≠ [] ↔ ∃ (id : ScopeInstanceId) (scope : ActiveExecutionScope),
      s.activeScopes[id]? = some scope ∧ scope.scopeNodeId = n := by
    simp only [ne_eq, List.eq_nil_iff_forall_not_mem, mem_scopeInstances, not_forall, not_not]
  rw [OwnerActive, hto, hs, NodeActive, Option.isSome_iff_ne_none]
  rfl

/-- The errors that report a subscription that does not fit the definition or its owner. -/
def DomainError.blamesSubscription : DomainError → Bool
  | .unknownBoundaryEvent _ | .boundarySubscriptionDefinitionMismatch _ | .boundaryOwnerNotActive _ => true
  | _ => false

theorem blamesSubscription_of_blamesRouting (e : DomainError) (h : e.blamesRouting = false) :
    e.blamesSubscription = false := by
  cases e <;> first | rfl | cases h

theorem activationEvents_blamesSubscription {origin : NodeId} {vars : Variables} :
    FailsWith (fun e => e.blamesSubscription = false) (activationEvents d engine occurredAt origin scope vars r) := by
  refine activationLoop_failsWith blamesSubscription_of_blamesRouting (J := fun _ => True)
    (fun _ _ _ _ _ _ _ _ _ => trivial) (fun p current scope rest _ _ => ⟨?_,?_,?_⟩) trivial
  · intro node join selected _ _
    exact .check rfl fun _ => .check rfl fun _ => .pure _
  · intro node split next _ _
    exact .get rfl fun _ _ => .bind (checkedSucc_failsWith rfl) fun _ _ =>
      .check rfl fun _ => .pure _
  · intro owner id _ _ _
    exact .get rfl fun _ _ => .check rfl fun _ => .pure _

theorem activeScopeForNode_blamesSubscription :
    FailsWith (fun e => e.blamesSubscription = false) (d.activeScopeForNode s nodeId) := by
  unfold WorkflowDefinition.activeScopeForNode
  split
  · exact .ok _
  · split
    · exact .error rfl
    · exact .ok _
    · exact .error rfl

/-- A boundary event found among exact subscriptions is known, matches its definition and has an active owner. -/
theorem triggerBoundaryEvent_blamesSubscription (hd : d.Accepted) (boundaryEventId : NodeId)
    (ha : Armed d (OwnerActive s) s.activeBoundarySubscriptions) : FailsWith (fun e => e.blamesSubscription = false)
      (triggerBoundaryEvent d s context boundaryEventId occurredAt) := by
  have hP := blamesSubscription_of_blamesRouting
  refine .get rfl fun sub hsub => ?_
  obtain ⟨ho,b,hb,rfl,heq⟩ := ha.sound _ _ hsub
  have hf := hd.boundaryEvent_eq_some hb
  simp only [hf, okOr]
  refine .bind (.ok _) fun found hbd => ?_
  cases hbd
  have hm : subscriptionMatches b sub = true := by
    rw [heq]
    simp [subscriptionMatches, subscriptionOf]
  refine .bind (.ensure fun h => by rw [hm] at h; cases h) fun _ _ => ?_
  refine .bind (.ensure fun h => ?_) fun _ _ => .check rfl fun _ => ?_
  · simp only [Bool.or_eq_false_iff, bne_eq_false_iff_eq, Bool.not_eq_false', List.isEmpty_iff] at h
    obtain ⟨⟨h₁,h₂⟩,h₃⟩ := h
    rcases ho with h | h | h
    · exact absurd h₁ h
    · rw [h₂] at h; cases h
    · exact absurd h₃ h
  · have hca : FailsWith (fun e : DomainError => e.blamesSubscription = false)
        (cancellationEvents d b sub.attachedNodeId occurredAt) := by
      unfold cancellationEvents
      split
      · exact .bind (node_failsWith hP) fun _ _ => .pure _
      · exact .ok _
    exact .bind hca fun _ _ => .bind (interruptActivity_failsWith hP) fun _ _ =>
      .bind activeScopeForNode_blamesSubscription fun _ _ =>
        .bind activationEvents_blamesSubscription fun _ _ => .pure _

/-- In every reachable state of a definition with unambiguous scopes, the subscriptions are exactly the
boundary events of the nodes that hold a token, iterations or a scope; a node with boundary events holds
one token at most; and triggering a boundary event never blames its subscription. -/
theorem boundarySubscriptions_exact (hd : d.Accepted) (hu : UnambiguousScopes d) (hs : Reachable d s) :
    Armed d (OwnerActive s) s.activeBoundarySubscriptions ∧
    (∀ n : NodeId, d.boundaryEvents n ≠ [] → s.activeTokens[n]?.getD 0 ≤ 1) ∧
    (∀ id t context e, decideEvents d s (.triggerBoundaryEvent id t) context = .error e →
      e.blamesSubscription = false) := by
  have hinv := hs.subscribed hd hu
  have har : Armed d (OwnerActive s) s.activeBoundarySubscriptions :=
    hinv.armed.congr (ownerActive_iff hs.tokensPositive)
  refine ⟨har,hinv.single,?_⟩
  intro id t context
  have hun : FailsWith (fun e => e.blamesSubscription = false)
      (decideUnbounded d s (.triggerBoundaryEvent id t) context) := by
    cases hl : s.lifecycle with
    | active =>
      simp only [decideUnbounded, hl]
      exact triggerBoundaryEvent_blamesSubscription hd id har
    | _ => simp only [decideUnbounded, hl]; exact .error rfl
  exact FailsWith.map (.bind hun fun _ _ => .check rfl fun _ => .pure _)

end Runs

namespace Sample

def timedInput : DefinitionInput :=
  { reviewInput with contracts := { boundaryEvents :=
      [(.lit "review", ⟨.lit "late", true, .lit "end", .timer .duration "PT1H"⟩)] } }

def timed : WorkflowDefinition := build timedInput (by decide)

def timedStart : List DomainEvent :=
  [.workflowStarted (.lit "tenant-a") (.lit "review") (.lit "1") (.lit "start") 5,
    .serviceTaskActivated (.lit "review") (.lit "check") 5,
    .boundaryEventArmed (.lit "late") (.lit "review") (.lit "end") true (.timer .duration "PT1H") 5]

theorem timedStart_decided :
    decideEvents timed {} (.startWorkflow (.lit "tenant-a") 5) context = .ok timedStart := by rfl

end Sample

open Sample

theorem boundarySubscriptions_exact_timed : Reachable timed (timedStart.foldl evolve {}) ∧
    (timedStart.foldl evolve {}).activeTokens[(.lit "review" : NodeId)]?.getD 0 ≤ 1 ∧
    ∃ armedAt, (timedStart.foldl evolve {}).activeBoundarySubscriptions[(.lit "late" : NodeId)]? =
      some ⟨.lit "review", .lit "end", true, .timer .duration "PT1H", armedAt⟩ := by
  have hr : Reachable timed (timedStart.foldl evolve {}) :=
    .step .initial timedStart_decided
  obtain ⟨har,hs,_⟩ :=
    boundarySubscriptions_exact (build_accepted _ _) (by decide : UnambiguousScopes timed) hr
  refine ⟨hr,hs _ (by decide),?_⟩
  exact har.complete (.lit "review") (.inl (by decide))
    ⟨.lit "late", true, .lit "end", .timer .duration "PT1H"⟩ (by decide)

namespace Sample

/-- Two parallel sub-processes. The one called `A#1/B` renders its identity as the sub-process `B` inside
`A` does; `B` carries a non-interrupting boundary event. -/
def overlapInput : DefinitionInput := {
  process (.lit "overlap") [(.lit "start", .start (.lit "fork")),
    (.lit "fork", .parallelSplit [.lit "A", .lit "A#1/B"] (.lit "merge")),
    (.lit "A", .subProcess (.lit "startA") (.lit "endA") (.lit "merge")),
    (.lit "startA", .start (.lit "B")),
    (.lit "B", .subProcess (.lit "startB") (.lit "endB") (.lit "endA")),
    (.lit "startB", .start (.lit "inner")),
    (.lit "inner", .serviceTask (.lit "work") (.lit "endB")),
    (.lit "endB", .finish), (.lit "endA", .finish),
    (.lit "A#1/B", .subProcess (.lit "startC") (.lit "endC") (.lit "merge")),
    (.lit "startC", .start (.lit "other")),
    (.lit "other", .serviceTask (.lit "work") (.lit "endC")),
    (.lit "endC", .finish),
    (.lit "merge", .parallelJoin (.lit "fork") (.lit "end")),
    (.lit "end", .finish)] with
  contracts := {
    boundaryEvents := [(.lit "B", ⟨.lit "notice", false, .lit "end", .message "notice"⟩)]
    nodeMetadata := [(.lit "startA", { ownerScopeId := some (.lit "A") }),
      (.lit "B", { ownerScopeId := some (.lit "A") }), (.lit "endA", { ownerScopeId := some (.lit "A") }),
      (.lit "startB", { ownerScopeId := some (.lit "B") }), (.lit "inner", { ownerScopeId := some (.lit "B") }),
      (.lit "endB", { ownerScopeId := some (.lit "B") }),
      (.lit "startC", { ownerScopeId := some (.lit "A#1/B") }),
      (.lit "other", { ownerScopeId := some (.lit "A#1/B") }),
      (.lit "endC", { ownerScopeId := some (.lit "A#1/B") })] } }

def overlap : WorkflowDefinition := build overlapInput (by decide)

def overlapStart : List DomainEvent :=
  ((decideEvents overlap {} (.startWorkflow (.lit "tenant-a") 5) context).toOption).getD []

end Sample

/-- After the start, the entry of the second sub-process has overwritten the scope of `B`: its boundary
event stays armed and can only fail. -/
theorem boundary_armed_without_owner :
    overlap.Accepted ∧ Reachable overlap (overlapStart.foldl evolve {}) ∧
    (overlapStart.foldl evolve {}).activeBoundarySubscriptions[(.lit "notice" : NodeId)]? =
      some ⟨.lit "B", .lit "end", false, .message "notice", 5⟩ ∧
    ¬OwnerActive (overlapStart.foldl evolve {}) (.lit "B") ∧
    decideEvents overlap (overlapStart.foldl evolve {})
      (.triggerBoundaryEvent (.lit "notice") 6) context = .error (.boundaryOwnerNotActive (.lit "B")) := by
  have hs : decideEvents overlap {} (.startWorkflow (.lit "tenant-a") 5) context =
      .ok overlapStart := by rfl
  refine ⟨build_accepted _ _,.step .initial hs,by rfl,?_,by rfl⟩
  rintro (h | h | h)
  · exact h (by decide)
  · revert h; decide
  · exact h (by decide)

end BpmpPlatform
