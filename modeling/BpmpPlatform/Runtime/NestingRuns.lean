import BpmpPlatform.Runtime.Conservation
import BpmpPlatform.Runtime.Continuations

/-! # Nested executions

Every step of the work-list, every decision and every run of a nested definition keeps the contexts
accounted for.
-/
namespace BpmpPlatform
open Std Outcome DomainEvent Node List

variable {d : WorkflowDefinition} {contexts : Contexts} {engine : EnginePolicy} {occurredAt : Nat}
  {scope : Option ScopeInstanceId} {events : List DomainEvent} {cs : List (List Frame)} {r r₁ : RoutingState}
  {n m : NodeId}

section Steps
variable {current : NodeId} {p p' : Progress} {rest : List (NodeId × Option ScopeInstanceId)}

variable {node : Node} {next : NodeId} {id : ScopeInstanceId}

theorem Node.joinPair_of_activityNext (h : node.activityNext = some next) : node.joinPair = none := by
  cases node <;> first | rfl | cases h

theorem Node.targets_of_activityNext (h : node.activityNext = some next) : node.targets = [next] := by
  cases node <;> first | (cases h; rfl) | cases h

section
variable (hw : WellNested d contexts) {owner : NodeId}
include hw

theorem WellNested.activity (hn : d.nodes[current]? = some node) (hact : node.activityNext = some next) :
    Enters d contexts (contexts.around current) next := by
  refine hw.plain hn (by rw [targets_of_activityNext hact]; simp) ?_
  cases node <;> first | exact trivial | cases hact

theorem WellNested.joined {split : NodeId}
    (hn : d.nodes[current]? = some node) (hj : node.joinPair = some (split, next)) :
    Enters d contexts (contexts.around current) next := by
  have hno := hw.node hn
  cases node <;> first | (cases hj; exact hno next (by simp [targets])) | cases hj

theorem WellNested.exit {exit : NodeId} (hx : d.subProcessExit owner = .ok exit) :
    Enters d contexts (contexts.around owner) exit := by
  simp only [WorkflowDefinition.subProcessExit, bind_eq_ok, node_eq_ok] at hx
  obtain ⟨node,hn,hx⟩ := hx
  split at hx
  · cases hx
    exact (hw.node hn).2
  · cases hx

theorem WellNested.around_finish (hn : d.nodes[current]? = some .finish) (ho : d.ownerScopeId current = some owner) :
    contexts.around current = .inside owner :: contexts.around owner := by
  simpa only [NodeNested, ho] using hw.node hn

omit hw in
theorem Nested.uncons (hn : Nested d contexts cs p) (hp : p.pending = (current, scope) :: rest) :
    ∃ c cs₀, cs = c :: cs₀ ∧ Enters d contexts c current ∧ ScopeFits p.routing c scope ∧
      List.Forall₂ (fun entry c => Enters d contexts c entry.1 ∧ ScopeFits p.routing c entry.2) rest cs₀ := by
  have hf := hn.fits
  rw [hp] at hf
  cases hf with
  | cons h hr => exact ⟨_,_,rfl,h.1,h.2,hr⟩

/-- The token that reaches the end of a sub-process leaves it; nothing else stood inside. -/
theorem Nested.leave (hpl : Placed d p.routing) {exit : NodeId} {r₁ : RoutingState}
    {completedScope : ActiveExecutionScope} (hp : p.pending = (current, scope) :: rest)
    (hn : Nested d contexts ((.inside owner :: contexts.around owner) :: cs) p)
    (hc : p.routing.completeScope id owner = .ok (r₁, completedScope)) (hx : d.subProcessExit owner = .ok exit)
    (hpe : p'.pending = (exit, completedScope.parentScopeInstanceId) :: rest)
    (hro : p'.routing = r₁.disarmBoundaries owner) : Nested d contexts (contexts.around owner :: cs) p' ∧
      Shift contexts ((.inside owner :: contexts.around owner) :: cs) p.routing (contexts.around owner :: cs)
        p'.routing [] [.inside owner :: contexts.around owner] := by
  obtain ⟨_,_,⟨⟩,_,_,hre⟩ := hn.uncons hp
  obtain ⟨hid,rfl,hr⟩ := completeScope_eq_ok.mp hc
  obtain ⟨hal,hal'⟩ := hn.toConserved.alone hw (hpl.instances_le _)
  have hsh : Shift contexts ((.inside completedScope.scopeNodeId :: _) :: cs) p.routing (_ :: cs) _ _ _ :=
    Shift.leave hc
  have hss : p'.routing.activeScopes = p.routing.activeScopes.erase id := by
    rw [hro, hr]
    rfl
  rw [← hro] at hsh
  refine ⟨⟨hsh.conserved hn.toConserved,?_,?_⟩,hsh⟩
  · rw [hpe]
    have hst : Stands p.routing completedScope.scopeNodeId := .inr (.inr (.inr ⟨id,completedScope,hid,rfl⟩))
    refine .cons ⟨hw.exit hx,(hn.parents id completedScope hid).erase hid (hal' _ hst) hss⟩ ?_
    have hmem : List.Forall₂ (fun entry c => c ∈ cs ∧ Enters d contexts c entry.1 ∧ ScopeFits p.routing c entry.2)
        rest cs := by
      rw [forall₂_iff_get] at hre ⊢
      exact ⟨hre.1,fun i hi hi' => ⟨get_mem _ _,hre.2 i hi hi'⟩⟩
    refine hmem.imp fun _ c ⟨hin,hen,hfit⟩ => ⟨hen,?_⟩
    exact hfit.erase hid (hal c hin (hw.coherent_of_enters hen)) hss
  · intro id' s' hid'
    rw [hss] at hid'
    have hid' := of_getElem?_erase hid'
    exact (hn.parents id' s' hid').erase hid (hal' _ (.inr (.inr (.inr ⟨id',s',hid',rfl⟩)))) hss

end

/-- The token that reaches a sub-process enters it, and the new instance is the scope of what follows inside. -/
theorem Nested.enter (hu : UnambiguousScopes d) (hw : WellNested d contexts) (hpl : Placed d p.routing)
    {start finish : NodeId} {invocation : Nat} {r₁ : RoutingState} {armed : List DomainEvent}
    (hp : p.pending = (current, scope) :: rest) (hn : Nested d contexts (contexts.around current :: cs) p)
    (hno : d.nodes[current]? = some (.subProcess start finish next))
    (he : p.routing.enterScope current start scope = .ok (r₁, id, invocation))
    (ha : armBoundaryEvents d current occurredAt r₁ = .ok (armed, p'.routing))
    (hpe : p'.pending = (start, some id) :: rest) :
    Nested d contexts ((.inside current :: contexts.around current) :: cs) p' ∧
      Shift contexts (contexts.around current :: cs) p.routing ((.inside current :: contexts.around current) :: cs)
        p'.routing [.inside current :: contexts.around current] [] := by
  obtain ⟨_,_,⟨⟩,_,hsc,hre⟩ := hn.uncons hp
  obtain ⟨hem,_,_,hid,hr⟩ := enterScope_eq_ok.mp he
  have hfr := hpl.fresh_scope hu hno hem hid
  have hsh : Shift contexts (contexts.around current :: cs) p.routing (_ :: cs) p'.routing _ _ :=
    Shift.enter he hfr ha
  have hss : p'.routing.activeScopes =
      p.routing.activeScopes.insert id ⟨current, start, scope, invocation⟩ := by
    rw [armBoundaryEvents_frame ha, hr]
  have hm : ∀ (id' : ScopeInstanceId) (s : ActiveExecutionScope), p.routing.activeScopes[id']? = some s →
      p'.routing.activeScopes[id']? = some s := by
    intro id' s hs
    rw [hss, getElem?_insert_eq, if_neg]
    · exact hs
    · rintro rfl
      rw [hfr] at hs
      cases hs
  refine ⟨⟨hsh.conserved hn.toConserved,?_,?_⟩,hsh⟩
  · rw [hpe]
    refine .cons ⟨(hw.node hno).1,?_⟩ (hre.imp fun _ _ hfit => ⟨hfit.1,hfit.2.mono hm⟩)
    intro q hq
    rw [innermostScope_inside, Option.some.injEq] at hq
    exact ⟨id,⟨current, start, scope, invocation⟩,rfl,by rw [hss, getElem?_insert_eq, if_pos rfl],hq⟩
  · intro id' s' hid'
    rw [hss] at hid'
    rcases of_getElem?_insert hid' with ⟨-,rfl⟩ | hid'
    · exact hsc.mono hm
    · exact (hn.parents id' s' hid').mono hm

theorem Activates.nested (hd : d.Accepted) (hu : UnambiguousScopes d) (hw : WellNested d contexts)
    (hpl : Placed d p.routing) (hp : p.pending = (current, scope) :: rest) (hn : Nested d contexts cs p)
    (h : Activates d engine occurredAt current scope { p with pending := rest } events p') :
    ∃ cs' opened closed, Nested d contexts cs' p' ∧ Shift contexts cs p.routing cs' p'.routing opened closed := by
  obtain ⟨c,cs,rfl,hen,hsc,hre⟩ := hn.uncons hp
  -- the steps that leave the active scopes as they are
  have keep {cs' opened closed : List (List Frame)}
      (hsh : Shift contexts (c :: cs) p.routing cs' p'.routing opened closed)
      (hs : p'.routing.activeScopes = p.routing.activeScopes)
      (hf : List.Forall₂ (fun entry c => Enters d contexts c entry.1 ∧ ScopeFits p.routing c entry.2) p'.pending cs') :
      ∃ cs' opened closed, Nested d contexts cs' p' ∧
        Shift contexts (c :: cs) p.routing cs' p'.routing opened closed := by
    refine ⟨cs',opened,closed,⟨hsh.conserved hn.toConserved,?_,?_⟩,hsh⟩
    · exact hf.imp fun _ _ hfit => ⟨hfit.1,hfit.2.of_eq hs⟩
    · intro id s hid
      rw [hs] at hid
      exact (hn.parents id s hid).of_eq hs
  cases h with
  | task hno hact hmi he ht ha =>
    have hc := (enters_of_not_join hno (joinPair_of_activityNext hact)).mp hen
    obtain ⟨_,hr⟩ := activateTask_eq_ok.mp ht
    refine keep (Shift.rest hc ?_ ?_ ?_) ?_ hre
    · intro q
      rw [load_armBoundaryEvents q ha, load_activateTask q ht]
    all_goals rw [armBoundaryEvents_frame ha, hr]
  | multiInstance hno hact hmi hs ha =>
    have hc := (enters_of_not_join hno (joinPair_of_activityNext hact)).mp hen
    obtain ⟨hnon,active,rfl⟩ := startMultiInstance_runs hs
    refine keep (Shift.rest hc ?_ ?_ ?_) ?_ hre
    · intro q
      rw [load_armBoundaryEvents q ha, load_withMultiInstance q hnon]
    all_goals rw [armBoundaryEvents_frame ha]; rfl
  | emptyMultiInstance hno hact hmi hs =>
    have hc := (enters_of_not_join hno (joinPair_of_activityNext hact)).mp hen
    cases startMultiInstance_skips hs
    exact keep (Shift.keep (fun _ => rfl) rfl rfl) rfl (.cons ⟨hc ▸ hw.activity hno hact,hsc⟩ hre)
  | decision hno | start hno =>
    cases (enters_of_not_join hno rfl).mp hen
    exact keep (Shift.keep (fun _ => rfl) rfl rfl) rfl (.cons ⟨hw.plain hno (by simp [targets]) trivial,hsc⟩ hre)
  | @scopeEnd owner id r₁ completedScope exit hno how hs hc hx =>
    have hcur := (enters_of_not_join hno rfl).mp hen
    rw [hw.around_finish hno how] at hcur
    subst hcur
    exact ⟨_,_,_,hn.leave hw hpl hp hc hx rfl rfl⟩
  | branchEnd hno how | completed hno how =>
    have hcur := (enters_of_not_join hno rfl).mp hen
    have har : contexts.around current = [] := by
      simpa only [NodeNested, how] using hw.node hno
    rw [har] at hcur
    subst hcur
    exact keep Shift.drop rfl hre
  | exclusive hno ht =>
    have hc := (enters_of_not_join hno rfl).mp hen
    have hne := hw.plain hno (selectTransition_mem ht) trivial
    exact keep (Shift.keep (fun _ => rfl) rfl rfl) rfl (.cons ⟨hc ▸ hne,hsc⟩ hre)
  | @split node join selected r₁ hno hsel ho =>
    have hc := (enters_of_not_join hno hsel.joinPair).mp hen
    obtain ⟨hjo,hta⟩ := hsel.nested hw hno
    obtain ⟨_,_,hr⟩ := openJoin_eq_ok.mp ho
    refine keep (Shift.fork hc hjo (hsel.nodup hd hno) ho) (by rw [hr]) ?_
    refine rel_append ?_ hre
    rw [forall₂_map_left_iff, forall₂_map_right_iff, forall₂_same]
    intro target ht
    refine ⟨hta target ht,?_⟩
    intro q hq
    exact hsc q (by rw [hc]; exact hq)
  | arrive hno hj ha =>
    obtain ⟨target,rfl⟩ := (enters_join hno (by rw [hj]; rfl)).mp hen
    obtain ⟨_,_,_,hr⟩ := arrive_open ha
    exact keep (Shift.arrive ha) (by rw [hr]) hre
  | join hno hj ha =>
    obtain ⟨target,rfl⟩ := (enters_join hno (by rw [hj]; rfl)).mp hen
    obtain ⟨_,_,_,hr⟩ := arrive_close ha
    exact keep (Shift.join ha) (by rw [hr]) (.cons ⟨hw.joined hno hj,hsc⟩ hre)
  | enter hno he ha =>
    have hc := (enters_of_not_join hno rfl).mp hen
    subst hc
    exact ⟨_,_,_,hn.enter hu hw hpl hp hno he ha rfl⟩

end Steps

section Runs
variable {p : Progress}

structure Rests (contexts : Contexts) (r : RoutingState) : Prop extends Conserved contexts [] r where
  parents : ∀ (id : ScopeInstanceId) (s : ActiveExecutionScope), r.activeScopes[id]? = some s →
    ScopeFits r (contexts.around s.scopeNodeId) s.parentScopeInstanceId

theorem Runs.rests (hd : d.Accepted) (hu : UnambiguousScopes d) (hw : WellNested d contexts)
    (h : Runs d engine occurredAt p events r) (hs : Subscribed d p.routing) (hn : Nested d contexts cs p) :
    Rests contexts r := by
  induction h generalizing cs with
  | done hp =>
    have hf := hn.fits
    rw [hp] at hf
    cases hf
    exact ⟨hn.toConserved,hn.parents⟩
  | step hp ha hr ih =>
    obtain ⟨cs',_,_,hn',_⟩ := ha.nested hd hu hw hs.toPlaced hp hn
    exact ih (ha.subscribed hd hu hs) hn'

theorem total_depart (hl : ∀ q, r₁.load q + (q n).toNat = r.load q) (test : List Frame → Bool) :
    total contexts test [contexts.around n] r₁ = total contexts test [] r := by
  have := hl fun n => test (contexts.around n)
  rw [total_cons, total, total]
  simp only [countP_nil]
  omega

section
variable (h : Rests contexts r)
include h

/-- A command puts one entry on the work-list, with the context the work that left a node had. -/
theorem Rests.resume {c : List Frame} {vars : Variables} (hc : Conserved contexts [c] r₁)
    (hs : r₁.activeScopes = r.activeScopes) (he : Enters d contexts c m) (hf : ScopeFits r c scope) :
    Nested d contexts [c] ⟨[(m, scope)], vars, r₁⟩ := by
  refine ⟨hc,.cons ⟨he,hf.of_eq hs⟩ .nil,?_⟩
  intro id s hid
  exact (h.parents id s (by rw [← hs]; exact hid)).of_eq hs

theorem Rests.of_eq (hl : ∀ q, r₁.load q = r.load q) (hj : r₁.pendingJoins = r.pendingJoins)
    (hs : r₁.activeScopes = r.activeScopes) : Rests contexts r₁ := by
  refine ⟨(Shift.keep (fun _ => total_congr (hl _)) hj hs).conserved h.toConserved,?_⟩
  intro id s hid
  exact (h.parents id s (by rw [← hs]; exact hid)).of_eq hs

theorem Rests.depart (hl : ∀ q, r₁.load q + (q n).toNat = r.load q)
    (hj : r₁.pendingJoins = r.pendingJoins) (hs : r₁.activeScopes = r.activeScopes) :
    Conserved contexts [contexts.around n] r₁ :=
  (Shift.keep (total_depart hl) hj hs).conserved h.toConserved

theorem Rests.spawn : Conserved contexts [[]] r := by
  constructor
  · intro join
    rw [total_cons, h.joins join]
    rfl
  · intro q
    rw [total_cons, h.scopes q]
    rfl

end

/-- The scope that a command resolves for a node is an instance of the innermost sub-process around it. -/
theorem activeScopeForNode_fits {s : InstanceState} {node : Node} (hw : WellNested d contexts)
    (hn : d.nodes[n]? = some node) (h : d.activeScopeForNode s n = .ok scope) :
    ScopeFits s.routing (contexts.around n) scope := by
  intro q hq
  rw [← hw.owner hn] at hq
  simp only [WorkflowDefinition.activeScopeForNode, hq] at h
  split at h
  · cases h
  · rename_i id hi
    cases h
    obtain ⟨record,hs,heq⟩ := mem_scopeInstances.mp (by rw [hi]; simp : id ∈ scopeInstances s.activeScopes q)
    exact ⟨id,record,rfl,hs,heq⟩
  · cases h

end Runs

section Decisions
variable {s : InstanceState} {context : DecisionContext} {command : Command} {e : DomainEvent}

/-- An interrupting boundary event leads to a node that stands where its owner does; a non-interrupting one
starts a token outside of all branches and sub-processes. -/
def BoundaryNested (d : WorkflowDefinition) (contexts : Contexts) (owner : NodeId)
    (boundary : BoundaryEventDefinition) : Prop :=
  Enters d contexts (if boundary.cancelActivity then contexts.around owner else []) boundary.target

/-- The boundary event that the command triggers, if any, respects the contexts. -/
def Command.Nested (d : WorkflowDefinition) (contexts : Contexts) : Command → Prop
  | .triggerBoundaryEvent id _ => ∀ owner boundary, d.boundaryEvent id = some (owner, boundary) →
      BoundaryNested d contexts owner boundary
  | _ => True

theorem load_interrupt (hs : Placed d s.routing) (hpos : TokensPositive s.routing) (ho : OwnerActive s n)
    (hi : scopeInstances s.activeScopes n = []) (hr : interruptActivity s true n = .ok r₁) (q : NodeId → Bool) :
    r₁.load q + (q n).toNat = s.routing.load q := by
  rw [interruptActivity_routing hpos hr, load_disarmBoundaries]
  by_cases ht : s.activeTokens[n]? = none
  · -- the owner runs iterations
    obtain ⟨active,ha⟩ : ∃ active, s.activeMultiInstances[n]? = some active := by
      rcases ho with ho | ho | ho
      · rw [ht] at ho; exact absurd rfl ho
      · exact Option.isSome_iff_exists.mp ho
      · exact absurd hi ho
    have hre : releaseTokens s.activeTokens n 1 = s.activeTokens := by simp only [releaseTokens, ht]
    rw [hre]
    exact load_finishMultiInstance q (r := s.routing) ha
  · obtain ⟨count,hc⟩ := Option.ne_none_iff_exists'.mp ht
    have hm : s.activeMultiInstances[n]? = none := hs.no_iterations ht
    rw [erase_of_absent hm]
    cases count with
    | zero => exact absurd hc (hpos n)
    | succ count => exact load_completeTask q (completeTask_eq_ok.mpr ⟨count,hc,rfl⟩)

/-- The events that only a pass through the work-list emits. -/
def DomainEvent.isFlow : DomainEvent → Bool
  | .gatewaySplitActivated .. | .gatewayTokenArrived .. | .gatewayJoined .. | .scopeEntered .. | .scopeCompleted .. => true
  | _ => false

def Spawns (s : InstanceState) (c : List Frame) (r : RoutingState) : Prop :=
  c = [] ∧ r = s.routing ∧ (s.lifecycle = .initial ∨ ∃ id : NodeId, s.activeBoundarySubscriptions[id]? ≠ none)

inductive Resumed (d : WorkflowDefinition) (contexts : Contexts) (s : InstanceState) (engine : EnginePolicy)
    (events : List DomainEvent) (r : RoutingState) : Prop
  | stays (hl : ∀ q, r.load q = s.routing.load q) (hj : r.pendingJoins = s.routing.pendingJoins)
      (hs : r.activeScopes = s.routing.activeScopes) (he : ∀ e ∈ events, e.isFlow = false)
  | resumes (first later : List DomainEvent) {p c occurredAt} (he : events = first ++ later) (hfirst : ∀ e ∈ first, e.isFlow = false)
      (ht : Tracks first s.routing p.routing) (hn : Nested d contexts [c] p) (hs : Subscribed d p.routing)
      (hc : (∀ test, total contexts test [c] p.routing = total contexts test [] s.routing) ∨ Spawns s c p.routing)
      (hr : Runs d engine occurredAt p later r)

theorem isFlow_of_isAuxiliary (h : e.isAuxiliary = true) : e.isFlow = false := by
  cases e <;> first | rfl | cases h

theorem isFlow_of_isCase (h : e.isCase = true) : e.isFlow = false := by
  cases e <;> first | rfl | cases h

/-- Where a command continues, its one entry is nested; what it released stood in the context of that entry. -/
theorem Continues.nested (hd : d.Accepted) (hw : WellNested d contexts) (hpos : TokensPositive s.routing)
    (hsub : Subscribed d s.routing) (hr : Rests contexts s.routing) (hc : command.Nested d contexts)
    {scope : Option ScopeInstanceId} (h : Continues d s command m scope r) :
    ∃ c, (∀ vars, Nested d contexts [c] ⟨[(m, scope)], vars, r⟩) ∧ Subscribed d r ∧
      ((∀ test, total contexts test [c] r = total contexts test [] s.routing) ∨ Spawns s c r) := by
  cases h with
  | @start tenantId occurredAt next hl hn =>
    have hne : Enters d contexts [] m := by
      have hpl : Enters d contexts (contexts.around d.startNode) m :=
        hw.plain hn (by simp [targets]) trivial
      rwa [hw.start] at hpl
    refine ⟨[],fun vars => hr.resume hr.spawn rfl hne ?_,hsub,.inr ⟨rfl,rfl,.inl hl⟩⟩
    intro q hq
    cases hq
  | @task command nodeId node next completed occurredAt r₁ scope hn hact he hct hs =>
    obtain ⟨_,_,hr₁⟩ := completeTask_eq_ok.mp hct
    have hlo : ∀ q, (r₁.disarmBoundaries nodeId).load q + (q nodeId).toNat = s.routing.load q := by
      intro q
      rw [load_disarmBoundaries, load_completeTask q hct]
    refine ⟨contexts.around nodeId,fun vars => hr.resume (hr.depart hlo ?_ ?_) ?_ (hw.activity hn hact)
      (activeScopeForNode_fits hw hn hs),hsub.completeTask hn hact hct,.inl (total_depart hlo)⟩
    all_goals rw [hr₁]; rfl
  | @iteration nodeId node next iteration occurredAt r₁ completed scope hn hact hci hs =>
    obtain ⟨active,ha,_,rfl,_⟩ := completeMultiInstanceIteration_eq_ok.mp hci
    have hin : (s.routing.withMultiInstance nodeId (active.retire iteration)).activeMultiInstances[nodeId]? =
        some (active.retire iteration) := by simp [RoutingState.withMultiInstance]
    have hlo : ∀ q, (((s.routing.withMultiInstance nodeId (active.retire iteration)).finishMultiInstance
        nodeId).disarmBoundaries nodeId).load q + (q nodeId).toNat = s.routing.load q := by
      intro q
      rw [load_disarmBoundaries, load_finishMultiInstance q hin, load_updateMultiInstance q ha]
    have hre := hsub.updateMultiInstance (by rw [ha]; simp) (active.retire iteration)
    exact ⟨contexts.around nodeId,fun vars => hr.resume (hr.depart hlo rfl rfl) rfl (hw.activity hn hact)
      (activeScopeForNode_fits hw hn hs),hre.finishMultiInstance (by rw [hin]; simp),.inl (total_depart hlo)⟩
  | @trigger boundaryEventId occurredAt subscription owner boundary r₁ scope hss hb ho hi hr₁ hs =>
    obtain ⟨hac,b,hmem,hid,_⟩ := hsub.armed.sound _ _ hss
    have hbd := hd.boundaryEvent_eq_some hmem
    rw [hid, hb, Option.some.injEq, Prod.mk.injEq] at hbd
    obtain ⟨rfl,rfl⟩ := hbd
    have hta := hc _ _ hb
    obtain ⟨node,hno⟩ := hsub.toPlaced.node_of_active hac
    by_cases hca : boundary.cancelActivity = true
    · rw [BoundaryNested, if_pos hca] at hta
      rw [hca] at hr₁
      have hlo := load_interrupt hsub.toPlaced hpos ho (hi hca) hr₁
      have heq := interruptActivity_routing hpos hr₁
      refine ⟨_,fun vars => hr.resume (hr.depart hlo ?_ ?_) ?_ hta (activeScopeForNode_fits hw hno hs),
        hsub.interrupt hpos (hi hca) hr₁,.inl (total_depart hlo)⟩
      all_goals rw [heq]; rfl
    · rw [BoundaryNested, if_neg hca] at hta
      rw [Bool.not_eq_true] at hca
      rw [hca] at hr₁
      cases hr₁
      refine ⟨[],fun vars => hr.resume hr.spawn rfl hta ?_,hsub,.inr ⟨rfl,rfl,.inr ⟨boundaryEventId,?_⟩⟩⟩
      · intro q hq
        cases hq
      · rw [hss]
        simp

theorem Decides.resumed (hd : d.Accepted) (hw : WellNested d contexts) (hpos : TokensPositive s.routing)
    (hsub : Subscribed d s.routing) (hre : Rests contexts s.routing) (hc : command.Nested d contexts)
    (h : Decides d s context command events r) : Resumed d contexts s context.engine events r := by
  -- the run that a command makes from where it continues
  have resume {first later : List DomainEvent} {m : NodeId} {scope : Option ScopeInstanceId} {vars : Variables}
      {r₁ : RoutingState} {occurredAt : Nat} (hco : Continues d s command m scope r₁)
      (hf : ∀ e ∈ first, e.isFlow = false) (ht : Tracks first s.routing r₁)
      (hr : Runs d context.engine occurredAt ⟨[(m, scope)], vars, r₁⟩ later r) (he : events = first ++ later) :
      Resumed d contexts s context.engine events r := by
    obtain ⟨c,hn,hs,hto⟩ := hco.nested hd hw hpos hsub hre hc
    exact .resumes first later he hf ht (hn vars) hs hto hr
  have hdi {nodeId : NodeId} {occurredAt : Nat} {r₁ : RoutingState} :
      ∀ e ∈ (disarmBoundaryEvents nodeId occurredAt r₁).1, e.isFlow = false :=
    fun e he => isFlow_of_isAuxiliary (disarmBoundaryEvents_auxiliary e he)
  cases h with
  | activateCase h =>
    exact .stays (fun _ => rfl) rfl rfl fun e he => isFlow_of_isCase (activateCase_isCase h e he)
  | evaluateCaseSentries h =>
    exact .stays (fun _ => rfl) rfl rfl fun e he => isFlow_of_isCase (evaluateCaseSentries_isCase h e he)
  | start hl hn hr =>
    exact resume (.start hl hn) (by simp [isFlow]) (Tracks.single rfl) hr (singleton_append).symm
  | task hl hn hact he hct hs hr =>
    refine resume (.task hn hact he hct hs) (forall_mem_cons.mpr ⟨?_,hdi⟩)
      (Tracks.cons (completeTask_tracks he hct) (disarmBoundaryEvents_tracks _ _ _)) hr rfl
    cases he <;> rfl
  | iteration hl hn hact hmi hci ho =>
    cases ho with
    | finished hs hr =>
      exact resume (.iteration hn hact hci hs)
        (forall_mem_cons.mpr ⟨rfl,forall_mem_cons.mpr ⟨rfl,hdi⟩⟩)
        (Tracks.cons (completeMultiInstanceIteration_tracks hci) (Tracks.cons rfl (disarmBoundaryEvents_tracks _ _ _)))
        hr rfl
    | advanced ha' =>
      obtain ⟨active,ha,_,rfl,_⟩ := completeMultiInstanceIteration_eq_ok.mp hci
      obtain ⟨active',hin',_,_,_,rfl,_⟩ := activateNextMultiInstance_eq_ok.mp ha'
      refine .stays (fun q => ?_) rfl rfl (by simp [isFlow])
      exact (load_updateMultiInstance q hin' _).trans (load_updateMultiInstance q ha _)
    | waiting =>
      obtain ⟨active,ha,_,rfl,_⟩ := completeMultiInstanceIteration_eq_ok.mp hci
      exact .stays (fun q => load_updateMultiInstance q ha _) rfl rfl (by simp [isFlow])
  | trigger hl hss hb hm ho hi hu' hr₁ hs hr =>
    refine resume (.trigger hss hb ho hi hr₁ hs) ?_ (Tracks.cons (interruptActivity_tracks hpos hr₁)
      (tracks_cancelled hu' _)) hr rfl
    refine forall_mem_cons.mpr ⟨rfl,?_⟩
    rcases hu' with rfl | ⟨reason,rfl⟩
    · simp
    · simp [isFlow]

theorem Resumed.rests (hd : d.Accepted) (hu : UnambiguousScopes d) (hw : WellNested d contexts)
    (hre : Rests contexts s.routing) (h : Resumed d contexts s context.engine events r) : Rests contexts r := by
  cases h with
  | stays hl hj hs => exact hre.of_eq hl hj hs
  | resumes first later he hf ht hn hs hc hr => exact hr.rests hd hu hw hs hn

/-- Runs of a nested definition in which every triggered boundary event respects the contexts. -/
def NestedRun (d : WorkflowDefinition) (contexts : Contexts) (s : InstanceState) : Prop :=
  RunsWhile d (fun command _ => command.Nested d contexts) {} s

theorem NestedRun.rests (hd : d.Accepted) (hu : UnambiguousScopes d) (hw : WellNested d contexts)
    (h : NestedRun d contexts s) : Rests contexts s.routing := by
  induction h with
  | refl =>
    refine ⟨⟨fun join => ?_,fun q => ?_⟩,?_⟩
    · rfl
    · rfl
    · intro id record hid
      simp [InstanceState.routing] at hid
  | @step t command context events ht hc hdec ih =>
    obtain ⟨r,hr⟩ := decideEvents_eq_ok.mp hdec
    have hre : Reachable d t := RunsWhile.reachable ht
    rw [decideRouting_agrees hre hr]
    exact ((decideRouting_decides hr).resumed hd hw hre.tokensPositive (hre.subscribed hd hu) ih hc).rests hd hu
      hw ih

end Decisions

end BpmpPlatform
