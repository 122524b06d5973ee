import BpmpPlatform.Runtime.Storable

/-! # Storable states along decisions

Every operation, run and decision of a definition whose texts are given keeps the state storable after
each of its events, the closing ones apart.
-/
namespace BpmpPlatform
open Std Outcome

/-- The names and references of a definition that end up in the state are not blank. -/
structure TextsGiven (d : WorkflowDefinition) : Prop where
  itemVariables : ∀ n spec name, d.multiInstance n = some spec → spec.itemVariable = some name →
    Text.isBlank name = false
  triggers : ∀ n, ∀ b ∈ d.boundaryEvents n, b.trigger.isNamed = true
  resultVariables : ∀ (n : NodeId) taskType policy formKey resultVariable next,
    d.nodes[n]? = some (.userTask taskType policy formKey resultVariable next) → Text.isBlank resultVariable = false
  outputs : ∀ (id : String) table, d.decisionTables[id]? = some table → ∀ o ∈ table.outputs, Text.isBlank o.name = false

section Operations
variable {d : WorkflowDefinition} {r r₁ r₂ : RoutingState} {n : NodeId} {now : Nat} {events : List DomainEvent}
  {e : DomainEvent} {a : ActiveMultiInstance} {taskType : TaskType} {completed : Bool} {id : ScopeInstanceId}

theorem activateTask_cuts (h : Storable r) (he : TaskActivation n e) (ht : r.activateTask n = .ok r₁) :
    Cuts [e] r r₁ := by
  refine .single (activateTask_tracks he ht) ?_ ?_
  · cases he <;> exact id
  · obtain ⟨_,rfl⟩ := activateTask_eq_ok.mp ht
    exact { h with tokens := insert_positive h.tokens (Nat.succ_ne_zero _) }

theorem armAll_cuts {boundaries : List BoundaryEventDefinition} (h : Storable r)
    (hb : ∀ b ∈ boundaries, b.trigger.isNamed = true)
    (harm : armAll n now boundaries r = .ok (events, r₁)) : Cuts events r r₁ := by
  induction boundaries generalizing r events with
  | nil => cases harm; exact .done h
  | cons boundary rest ih =>
    simp only [armAll, bind_eq_ok] at harm
    obtain ⟨r₂,h₁,⟨later,_⟩,h₂,⟨⟩⟩ := harm
    obtain ⟨_,rfl⟩ := armBoundary_eq_ok.mp h₁
    have hs : Storable { r with
        activeBoundarySubscriptions :=
          r.activeBoundarySubscriptions.insert boundary.id (subscriptionOf n boundary now) } := by
      refine { h with subscriptions := fun id sub hsub => ?_ }
      rcases of_getElem?_insert hsub with ⟨-,rfl⟩ | hsub
      · exact hb boundary (by simp)
      · exact h.subscriptions id sub hsub
    exact .keep rfl id hs (ih hs (fun b hin => hb b (by simp [hin])) h₂)

theorem armBoundaryEvents_cuts (htx : TextsGiven d) (h : Storable r)
    (harm : armBoundaryEvents d n now r = .ok (events, r₁)) : Cuts events r r₁ :=
  armAll_cuts h (htx.triggers n) harm

section
variable (h : Storable r) {iteration : Nat}
include h

theorem Storable.disarm (n : NodeId) : Storable (r.disarmBoundaries n) := by
  rw [disarmBoundaries_eq]
  refine { h with subscriptions := fun id sub hsub => ?_ }
  simp only [ExtTreeMap.getElem?_filter', Option.filter_eq_some_iff] at hsub
  exact h.subscriptions id sub hsub.1

theorem disarmBoundaryEvents_cuts :
    Cuts (disarmBoundaryEvents n now r).1 r (disarmBoundaryEvents n now r).2 := by
  unfold disarmBoundaryEvents
  by_cases hnil : r.armedFor n = []
  · simp only [hnil, List.isEmpty_nil, ↓reduceIte, disarmBoundaries_of_none hnil]
    exact .done h
  · have hne : (r.armedFor n).isEmpty = false := by simpa using hnil
    simp only [hne, Bool.false_eq_true, ↓reduceIte]
    exact .single rfl id (h.disarm n)

theorem Storable.withMultiInstance (ha : MultiInstanceStorable a) : Storable (r.withMultiInstance n a) := by
  refine { h with multiInstances := fun m a' hm => ?_ }
  simp only [RoutingState.withMultiInstance] at hm
  rcases of_getElem?_insert hm with ⟨-,rfl⟩ | hm
  · exact ha
  · exact h.multiInstances m a' hm

theorem Storable.finishMultiInstance (n : NodeId) : Storable (r.finishMultiInstance n) := by
  refine { h with multiInstances := fun m a hm => ?_ }
  simp only [RoutingState.finishMultiInstance] at hm
  exact h.multiInstances m a (of_getElem?_erase hm)

theorem activateNext_storable {item : Option WorkflowValue}
    (hn : r.activateNextMultiInstance n = .ok (r₁, iteration, taskType, item)) : Storable r₁ := by
  obtain ⟨active,ha,hne,hr,_,rfl,_⟩ := activateNextMultiInstance_eq_ok.mp hn
  exact h.withMultiInstance ((h.multiInstances n active ha).advance hne hr)

theorem completeIteration_storable (hc : r.completeMultiInstanceIteration n iteration = .ok (r₁, completed)) :
    Storable r₁ := by
  obtain ⟨active,ha,hin,rfl,_⟩ := completeMultiInstanceIteration_eq_ok.mp hc
  exact h.withMultiInstance ((h.multiInstances n active ha).retire hin)

theorem activateIterations_cuts {k : Nat}
    (hk : activateIterations n now k r = .ok (events, r₁)) : Cuts events r r₁ := by
  induction k generalizing r events with
  | zero => cases hk; exact .done h
  | succ k ih =>
    simp only [activateIterations, bind_eq_ok] at hk
    obtain ⟨⟨r₂,iteration,taskType,item⟩,h₁,⟨later,_⟩,h₂,⟨⟩⟩ := hk
    have hs := activateNext_storable h h₁
    exact .keep (activateNextMultiInstance_tracks h₁) id hs (ih hs h₂)

end

/-- The record of an activity without instances is what the decoder refuses. -/
theorem not_storable_of_empty (ha : a.totalInstances = 0) : ¬Storable (r.withMultiInstance n a) := by
  intro h
  have hin : (r.withMultiInstance n a).activeMultiInstances[n]? = some a := by
    simp only [RoutingState.withMultiInstance, getElem?_insert_eq, ↓reduceIte]
  exact (h.multiInstances n a hin).total ha

theorem startMultiInstance_cuts (hd : d.Accepted) (htx : TextsGiven d) {spec : MultiInstanceDefinition}
    {vars : Variables} {engine : EnginePolicy} (hsp : d.multiInstance n = some spec) (h : Storable r)
    (hst : startMultiInstance n taskType spec vars engine now r = .ok (events, r₁, completed)) :
    Cuts events r r₁ := by
  obtain ⟨total,items,hsta,⟨rfl,_,rfl,rfl⟩ | ⟨hpos,_,later,rfl,hit⟩⟩ := startMultiInstance_cases hst
  · have he : ¬Storable (r₁.withMultiInstance n (initialMultiInstance taskType spec engine 0 items)) :=
      not_storable_of_empty rfl
    refine .close rfl rfl he (.single ?_ id h)
    simp only [routeEvent, applyEvent, RoutingState.toState, InstanceState.routing,
      erase_insert_of_absent hsta.fresh]
  · have hi := initialMultiInstance_storable hd hsp (htx.itemVariables n spec · hsp) hsta hpos
    have hs := h.withMultiInstance (n := n) hi
    exact .keep rfl (Nat.ne_of_gt hpos) hs (activateIterations_cuts hs hit)

theorem arrive_open_cuts (h : Storable r) (ha : r.arrive n = .ok (r₁, false)) :
    Cuts [.gatewayTokenArrived n now] r r₁ := by
  obtain ⟨join,hj,hlt,rfl⟩ := arrive_open ha
  refine .single (arrive_tracks ha) ?_ { h with joins := h.joins.insert hlt rfl }
  rintro ⟨join',hj',heq⟩
  rw [hj] at hj'
  cases hj'
  omega

theorem arrive_close_cuts (h : Storable r) (ha : r.arrive n = .ok (r₁, true)) :
    Cuts [.gatewayTokenArrived n now, .gatewayJoined n now] r (r₁.closeJoin n) := by
  obtain ⟨join,hj,heq,hc⟩ := arrive_close ha
  obtain ⟨_,hj',_,_,hr₁,_⟩ := arrive_eq_ok.mp ha
  rw [hj] at hj'
  cases hj'
  -- the join that has just received its last token is what the decoder refuses
  have hf : ¬Storable r₁ := by
    intro hst
    have hlt := hst.joins n ⟨join.expectedTokens, join.arrivedTokens + 1⟩ (by rw [hr₁, getElem?_insert_eq, if_pos rfl])
    exact absurd heq (Nat.ne_of_lt hlt)
  refine .close (arrive_tracks ha) ⟨join,hj,heq⟩ hf (.single rfl id ?_)
  rw [hc]
  exact { h with joins := h.joins.erase rfl }

theorem enterScope_storable {start : NodeId} {parent : Option ScopeInstanceId} {invocation : Nat} (h : Storable r)
    (he : r.enterScope n start parent = .ok (r₁, id, invocation)) : Storable r₁ := by
  obtain ⟨_,_,rfl,_,rfl⟩ := enterScope_eq_ok.mp he
  refine { h with scopes := ?_, counts := ?_ }
  · intro k scope hk
    rcases of_getElem?_insert hk with ⟨-,rfl⟩ | hk
    · exact Nat.succ_ne_zero _
    · exact h.scopes k scope hk
  · intro m
    simp only [getElem?_insert_eq]
    split
    · simp [RoutingState.nextInvocation]
    · exact h.counts m

theorem completeScope_storable {scope : ActiveExecutionScope} (h : Storable r)
    (hc : r.completeScope id n = .ok (r₁, scope)) : Storable r₁ := by
  obtain ⟨_,_,rfl⟩ := completeScope_eq_ok.mp hc
  exact { h with scopes := fun k scope hk => h.scopes k scope (of_getElem?_erase hk) }

end Operations

section Decisions
variable {d : WorkflowDefinition} {engine : EnginePolicy} {now : Nat} {current : NodeId}
  {scope : Option ScopeInstanceId} {p p' : Progress} {events : List DomainEvent} {r : RoutingState}

theorem Activates.cuts (hd : d.Accepted) (htx : TextsGiven d)
    (h : Activates d engine now current scope p events p') (hs : Storable p.routing) :
    Cuts events p.routing p'.routing := by
  have htr := h.tracks
  cases h with
  | task hn hact hmi he ht ha =>
    have hcut := activateTask_cuts hs he ht
    exact hcut.append (armBoundaryEvents_cuts htx hcut.storable ha)
  | multiInstance hn hact hmi hst ha =>
    have hcut := startMultiInstance_cuts hd htx hmi hs hst
    exact hcut.append (armBoundaryEvents_cuts htx hcut.storable ha)
  | emptyMultiInstance hn hact hmi hst => exact startMultiInstance_cuts hd htx hmi hs hst
  | decision => exact .single rfl id hs
  | scopeEnd hn ho hsc hc =>
    have hs' := completeScope_storable hs hc
    obtain ⟨_,_,rfl⟩ := completeScope_eq_ok.mp hc
    exact .keep rfl id hs' (disarmBoundaryEvents_cuts hs')
  | branchEnd => exact .single rfl id hs
  | completed => exact .single htr id hs
  | start | exclusive => exact .done hs
  | split hn hsel ho =>
    have hpos := hsel.length_pos hd hn
    refine .single (openJoin_tracks ho) id ?_
    obtain ⟨_,_,rfl⟩ := openJoin_eq_ok.mp ho
    exact { hs with joins := hs.joins.insert hpos rfl }
  | arrive hn hj ha => exact arrive_open_cuts hs ha
  | join hn hj ha => exact arrive_close_cuts hs ha
  | enter hn he ha =>
    have hs' := enterScope_storable hs he
    exact .keep (enterScope_tracks he) id hs' (armBoundaryEvents_cuts htx hs' ha)

theorem Runs.cuts (hd : d.Accepted) (htx : TextsGiven d) (h : Runs d engine now p events r)
    (hs : Storable p.routing) : Cuts events p.routing r := by
  induction h with
  | done => exact .done hs
  | step hp ha hr ih =>
    have hcut := ha.cuts hd htx hs
    exact hcut.append (ih hcut.storable)

variable {s : InstanceState} {context : DecisionContext} {command : Command}

theorem IterationOutcome.cuts (hd : d.Accepted) (htx : TextsGiven d) {nodeId next : NodeId}
    {r₁ : RoutingState} (hs : Storable r₁)
    (h : IterationOutcome d s context nodeId next now r₁ events r) : Cuts events r₁ r := by
  cases h with
  | finished _ hr =>
    have hs' := hs.finishMultiInstance nodeId
    have hdi : Cuts (disarmBoundaryEvents nodeId now (r₁.finishMultiInstance nodeId)).1 _ _ :=
      disarmBoundaryEvents_cuts hs'
    exact .keep rfl id hs' (hdi.append (hr.cuts hd htx hdi.storable))
  | advanced ha => exact .single (activateNextMultiInstance_tracks ha) id (activateNext_storable hs ha)
  | waiting => exact .done hs

theorem cuts_of_isCase (h : ∀ e ∈ events, e.isCase = true) (hs : Storable r) : Cuts events r r := by
  induction events with
  | nil => exact .done hs
  | cons e events ih =>
    have hc := h e (by simp)
    refine .keep (routeEvent_of_isCase hc r) ?_ hs (ih fun e he => h e (by simp [he]))
    cases e with
    | gatewayTokenArrived | multiInstanceStarted => cases hc
    | _ => exact id

theorem interruptActivity_storable {cancelActivity : Bool} {owner : NodeId} (hs : Storable s.routing)
    (h : interruptActivity s cancelActivity owner = .ok r) : Storable r := by
  cases cancelActivity with
  | true =>
    rw [interruptActivity_routing hs.tokens h]
    refine Storable.disarm ?_ owner
    exact { hs.finishMultiInstance owner with tokens := releaseTokens_positive hs.tokens _ _ }
  | false => cases h; exact hs

theorem Decides.cuts (hd : d.Accepted) (htx : TextsGiven d) (hs : Storable s.routing)
    (h : Decides d s context command events r) : Cuts events s.routing r := by
  cases h with
  | activateCase h => exact cuts_of_isCase (activateCase_isCase h) hs
  | evaluateCaseSentries h => exact cuts_of_isCase (evaluateCaseSentries_isCase h) hs
  | start hl hn hr => exact .keep rfl id hs (hr.cuts hd htx hs)
  | @task _ nodeId _ _ _ t _ _ _ _ _ hl hn hact he hc hsc hr =>
    have htr := completeTask_tracks he hc
    obtain ⟨_,_,rfl⟩ := completeTask_eq_ok.mp hc
    have hs' : Storable { s.routing with
        activeTokens := releaseTokens s.routing.activeTokens nodeId 1 } :=
      { hs with tokens := releaseTokens_positive hs.tokens _ _ }
    have hdi : Cuts (disarmBoundaryEvents nodeId t _).1 _ _ := disarmBoundaryEvents_cuts hs'
    refine .keep htr ?_ hs' (hdi.append (hr.cuts hd htx hdi.storable))
    cases he <;> exact id
  | iteration hl hn hact hmi hc ho =>
    have hs' := completeIteration_storable hs hc
    exact .keep (completeMultiInstanceIteration_tracks hc) id hs' (ho.cuts hd htx hs')
  | trigger hl hsub hb hm ho hi hu hr₁ hsc hr =>
    have hs' := interruptActivity_storable hs hr₁
    refine .keep (interruptActivity_tracks hs.tokens hr₁) id hs' ?_
    have hrun := hr.cuts hd htx hs'
    rcases hu with rfl | ⟨reason,rfl⟩
    · exact hrun
    · exact .keep rfl id hs' hrun

theorem Reachable.storable (hd : d.Accepted) (htx : TextsGiven d) (h : Reachable d s) : Storable s.routing := by
  induction h with
  | initial => refine ⟨?_,?_,?_,?_,?_,?_⟩ <;> simp [InstanceState.routing, TokensPositive, JoinsOpen]
  | @step s command context events hs h ih =>
    obtain ⟨r,hr⟩ := decideEvents_eq_ok.mp h
    rw [decideRouting_agrees hs hr]
    exact ((decideRouting_decides hr).cuts hd htx ih).storable

end Decisions

end BpmpPlatform
