import BpmpPlatform.Runtime.Agreement
import BpmpPlatform.Core.Accepted

/-! # Completion of a workflow

Completion is tested in the middle of the work-list. A counting invariant makes the test sound: the work-list is never
longer than one more than the tokens that the open joins still wait for.
-/
namespace BpmpPlatform
open Std Outcome RoutingState DomainEvent List

/-- The tokens a join still misses, not counting the one that will close it. -/
def joinDeficit (join : PendingGatewayJoin) : Nat := join.expectedTokens - 1 - join.arrivedTokens

def RoutingState.deficit (r : RoutingState) : Nat := weight (fun _ => joinDeficit) r.pendingJoins

def JoinsOpen (r : RoutingState) : Prop :=
  ∀ (nodeId : NodeId) join, r.pendingJoins[nodeId]? = some join → join.arrivedTokens < join.expectedTokens

def Balanced (p : Progress) : Prop := p.pending.length ≤ 1 + p.routing.deficit

variable {nodeId : NodeId} {d : WorkflowDefinition} {engine : EnginePolicy} {occurredAt : Nat} {current : NodeId}
  {scope : Option ScopeInstanceId} {p p' : Progress} {events : List DomainEvent} {r : RoutingState}

section Joins
variable {r r' : RoutingState}

theorem JoinsOpen.insert (h : JoinsOpen r) {join : PendingGatewayJoin}
    (hlt : join.arrivedTokens < join.expectedTokens)
    (hr : r'.pendingJoins = r.pendingJoins.insert nodeId join) : JoinsOpen r' := by
  intro n j hn
  rw [hr] at hn
  rcases of_getElem?_insert hn with ⟨-,rfl⟩ | hn
  · exact hlt
  · exact h n j hn

theorem JoinsOpen.erase (h : JoinsOpen r) (hr : r'.pendingJoins = r.pendingJoins.erase nodeId) : JoinsOpen r' := by
  intro n j hn
  rw [hr] at hn
  exact h n j (of_getElem?_erase hn)

theorem JoinsOpen.of_eq (h : JoinsOpen r) (hr : r'.pendingJoins = r.pendingJoins) : JoinsOpen r' := by
  intro n j hn
  rw [hr] at hn
  exact h n j hn

theorem deficit_of_eq (hr : r'.pendingJoins = r.pendingJoins) : r'.deficit = r.deficit := by
  rw [deficit, hr, deficit]

end Joins

section Step

theorem SplitSelects.length_pos (hd : d.Accepted) {vars : Variables} {node : Node} {join : NodeId}
    {selected : List NodeId} (hn : d.nodes[current]? = some node)
    (h : SplitSelects current vars node join selected) : 0 < selected.length := by
  cases h with
  | parallel =>
    have := hd.parallelSplit_length hn
    omega
  | inclusive h =>
    simp only [selectTransitions, bind_eq_ok, ensure_eq_ok] at h
    obtain ⟨matching,_,_,hne,⟨⟩⟩ := h
    refine length_pos_iff.mpr ?_
    simpa using hne

/-- One step keeps the joins open and the count balanced; `p` is the work-list without `current`. -/
theorem Activates.balanced (hd : d.Accepted) (h : Activates d engine occurredAt current scope p events p')
    (hj : JoinsOpen p.routing) (hb : p.pending.length ≤ p.routing.deficit) : JoinsOpen p'.routing ∧ Balanced p' := by
  -- the steps that leave the joins alone and put at most one node on the work-list
  have keep : p'.routing.pendingJoins = p.routing.pendingJoins →
      p'.pending.length ≤ p.pending.length + 1 → JoinsOpen p'.routing ∧ Balanced p' := by
    intro hr hl
    refine ⟨hj.of_eq hr,?_⟩
    rw [Balanced, deficit_of_eq hr]
    omega
  cases h with
  | task hn hact hmi he ht ha =>
    obtain ⟨_,rfl⟩ := activateTask_eq_ok.mp ht
    refine keep ?_ (Nat.le_succ _)
    rw [armBoundaryEvents_frame ha]
  | multiInstance hn hact hmi hs ha =>
    obtain ⟨_,active,rfl⟩ := startMultiInstance_runs hs
    refine keep ?_ (Nat.le_succ _)
    rw [armBoundaryEvents_frame ha]
    rfl
  | emptyMultiInstance hn hact hmi hs =>
    exact keep (by rw [startMultiInstance_skips hs]) (by simp)
  | decision => exact keep rfl (by simp)
  | scopeEnd hn ho hs hc =>
    obtain ⟨_,_,rfl⟩ := completeScope_eq_ok.mp hc
    exact keep rfl (by simp)
  | branchEnd | completed => exact keep rfl (Nat.le_succ _)
  | start | exclusive => exact keep rfl (by simp)
  | @split node join selected r₁ hn hs ho =>
    obtain ⟨_,hno,rfl⟩ := openJoin_eq_ok.mp ho
    have hpos := hs.length_pos hd hn
    refine ⟨hj.insert hpos rfl,?_⟩
    have hw := weight_insert_of_absent (fun _ => joinDeficit) hno (v := ⟨selected.length, 0⟩)
    have hd' : joinDeficit ⟨selected.length, 0⟩ = selected.length - 1 := rfl
    simp only [Balanced, deficit, length_append, length_map] at hb ⊢
    omega
  | arrive hn hjp ha =>
    obtain ⟨join,hjo,hlt,rfl⟩ := arrive_open ha
    refine ⟨hj.insert hlt rfl,?_⟩
    have hw : weight (fun _ => joinDeficit) (p.routing.pendingJoins.insert current
          ⟨join.expectedTokens, join.arrivedTokens + 1⟩) + joinDeficit join =
        weight (fun _ => joinDeficit) p.routing.pendingJoins +
          joinDeficit ⟨join.expectedTokens, join.arrivedTokens + 1⟩ :=
      weight_insert_of_present (fun _ => joinDeficit) hjo
    simp only [joinDeficit] at hw
    simp only [Balanced, deficit] at hb ⊢
    omega
  | join hn hjp ha =>
    obtain ⟨join,hjo,heq,hcl⟩ := arrive_close ha
    rw [hcl]
    refine ⟨hj.erase rfl,?_⟩
    have hw := weight_erase (fun _ => joinDeficit) hjo
    simp only [joinDeficit] at hw
    simp only [Balanced, deficit, length_cons] at hb ⊢
    omega
  | enter hn he ha =>
    obtain ⟨_,_,_,_,rfl⟩ := enterScope_eq_ok.mp he
    refine keep ?_ (by simp)
    rw [armBoundaryEvents_frame ha]

theorem Balanced.pop {rest : List (NodeId × Option ScopeInstanceId)} (hb : Balanced p)
    (hp : p.pending = (current, scope) :: rest) : rest.length ≤ p.routing.deficit := by
  rw [Balanced, hp, length_cons] at hb
  omega

theorem Runs.joinsOpen (hd : d.Accepted) (h : Runs d engine occurredAt p events r)
    (hj : JoinsOpen p.routing) (hb : Balanced p) : JoinsOpen r := by
  induction h with
  | done => exact hj
  | step hp ha hr ih =>
    obtain ⟨hj',hb'⟩ := ha.balanced hd hj (hb.pop hp)
    exact ih hj' hb'

end Step

section Outstanding

theorem isEmpty_eq_false {K V : Type} [Ord K] [TransOrd K] [LawfulEqOrd K] {m : ExtTreeMap K V} {k : K}
    (h : m[k]? ≠ none) : m.isEmpty = false := by
  by_contra hne
  exact h (eq_empty_iff.mp (by simpa using hne) k)

theorem hasOutstandingWork_eq_false_iff : r.hasOutstandingWork = false ↔
    r.activeTokens = ∅ ∧ r.pendingJoins = ∅ ∧ r.activeMultiInstances = ∅ ∧
      r.activeBoundarySubscriptions = ∅ ∧ r.activeScopes = ∅ := by
  simp only [hasOutstandingWork, Bool.or_eq_false_iff, Bool.not_eq_false', ExtTreeMap.isEmpty_iff, and_assoc]

theorem outstanding_of_token (h : r.activeTokens[nodeId]? ≠ none) : r.hasOutstandingWork = true := by
  simp [hasOutstandingWork, isEmpty_eq_false h]

theorem outstanding_of_multiInstance (h : r.activeMultiInstances[nodeId]? ≠ none) : r.hasOutstandingWork = true := by
  simp [hasOutstandingWork, isEmpty_eq_false h]

theorem outstanding_of_join (h : r.pendingJoins[nodeId]? ≠ none) : r.hasOutstandingWork = true := by
  simp [hasOutstandingWork, isEmpty_eq_false h]

theorem deficit_eq_zero (h : r.hasOutstandingWork = false) : r.deficit = 0 := by
  obtain ⟨_,hj,_⟩ := hasOutstandingWork_eq_false_iff.mp h
  rw [deficit, hj]
  rfl

end Outstanding

def DomainEvent.isWorkflowCompleted : DomainEvent → Bool
  | .workflowCompleted _ => true
  | _ => false

section Completion

theorem not_completed_of_auxiliary (h : ∀ e ∈ events, e.isAuxiliary = true) :
    ∀ e ∈ events, e.isWorkflowCompleted = false := by
  intro e he
  have haux := h e he
  cases e with
  | workflowCompleted => cases haux
  | _ => rfl

/-- A step either completes the workflow and changes nothing, or emits no completion and leaves
something to do: on the work-list or in the routing state. -/
theorem Activates.completion (h : Activates d engine occurredAt current scope p events p') :
    (∃ t, events = [.workflowCompleted t] ∧ p' = p ∧ p.routing.hasOutstandingWork = false) ∨
    ((∀ e ∈ events, e.isWorkflowCompleted = false) ∧ (p'.pending ≠ [] ∨ p'.routing.hasOutstandingWork = true)) := by
  cases h with
  | task hn hact hmi he ht ha =>
    obtain ⟨_,rfl⟩ := activateTask_eq_ok.mp ht
    refine .inr ⟨?_,.inr ?_⟩
    · rw [forall_mem_cons]
      exact ⟨by cases he <;> rfl,not_completed_of_auxiliary (armBoundaryEvents_auxiliary ha)⟩
    · refine @outstanding_of_token current _ ?_
      rw [armBoundaryEvents_frame ha, getElem?_insert_eq]
      simp
  | multiInstance hn hact hmi hs ha =>
    refine .inr ⟨?_,.inr ?_⟩
    · exact not_completed_of_auxiliary
        (forall_mem_append.mpr ⟨startMultiInstance_auxiliary hs,armBoundaryEvents_auxiliary ha⟩)
    · obtain ⟨_,active,rfl⟩ := startMultiInstance_runs hs
      refine @outstanding_of_multiInstance current _ ?_
      rw [armBoundaryEvents_frame ha]
      simp only [withMultiInstance, getElem?_insert_eq]
      simp
  | emptyMultiInstance hn hact hmi hs => exact .inr ⟨not_completed_of_auxiliary (startMultiInstance_auxiliary hs),.inl (by simp)⟩
  | decision => exact .inr ⟨by simp [isWorkflowCompleted],.inl (by simp)⟩
  | scopeEnd =>
    refine .inr ⟨?_,.inl (by simp)⟩
    rw [forall_mem_cons]
    exact ⟨rfl,not_completed_of_auxiliary disarmBoundaryEvents_auxiliary⟩
  | branchEnd hn ho hw => exact .inr ⟨by simp [isWorkflowCompleted],.inr hw⟩
  | completed hn ho hw => exact .inl ⟨_,rfl,rfl,hw⟩
  | start | exclusive => exact .inr ⟨by simp,.inl (by simp)⟩
  | @split _ join _ _ hn hs ho =>
    refine .inr ⟨by simp [isWorkflowCompleted],.inr ?_⟩
    obtain ⟨_,_,rfl⟩ := openJoin_eq_ok.mp ho
    exact @outstanding_of_join join _ (by simp)
  | arrive hn hj ha =>
    refine .inr ⟨by simp [isWorkflowCompleted],.inr ?_⟩
    obtain ⟨_,_,_,rfl⟩ := arrive_open ha
    exact @outstanding_of_join current _ (by simp)
  | join => exact .inr ⟨by simp [isWorkflowCompleted],.inl (by simp)⟩
  | enter hn he ha =>
    refine .inr ⟨?_,.inl (by simp)⟩
    rw [forall_mem_cons]
    exact ⟨rfl,not_completed_of_auxiliary (armBoundaryEvents_auxiliary ha)⟩

/-- How a run of the loop relates to completion: either it emits no completion and something remains to
do, or its last event is the only completion and nothing remains. -/
inductive RunCompletion (r₀ : RoutingState) : List DomainEvent → RoutingState → Prop
  | continues {events : List DomainEvent} {r : RoutingState} (hn : ∀ e ∈ events, e.isWorkflowCompleted = false)
      (hw : r.hasOutstandingWork = true) : RunCompletion r₀ events r
  | completes {before : List DomainEvent} {r : RoutingState} {t : Nat} (hn : ∀ e ∈ before, e.isWorkflowCompleted = false)
      (ht : Tracks before r₀ r) (hw : r.hasOutstandingWork = false) : RunCompletion r₀ (before ++ [.workflowCompleted t]) r

variable {r₁ r₀ : RoutingState}

theorem RunCompletion.prepend {first : List DomainEvent} (h : RunCompletion r₁ events r)
    (hn : ∀ e ∈ first, e.isWorkflowCompleted = false) (ht : Tracks first r₀ r₁) :
    RunCompletion r₀ (first ++ events) r := by
  cases h with
  | continues hn' hw => exact .continues (forall_mem_append.mpr ⟨hn,hn'⟩) hw
  | completes hn' ht' hw =>
    rw [← append_assoc]
    exact .completes (forall_mem_append.mpr ⟨hn,hn'⟩) (ht.append ht') hw

theorem RunCompletion.cons {e : DomainEvent} (h : RunCompletion r₁ events r) (he : e.isWorkflowCompleted = false)
    (ht : routeEvent r₀ e = r₁) : RunCompletion r₀ (e :: events) r :=
  h.prepend (forall_mem_singleton.mpr he) (Tracks.single ht)

theorem RunCompletion.disarm {nodeId : NodeId}
    (h : RunCompletion (disarmBoundaryEvents nodeId occurredAt r₁).2 events r) :
    RunCompletion r₁ ((disarmBoundaryEvents nodeId occurredAt r₁).1 ++ events) r :=
  h.prepend (not_completed_of_auxiliary disarmBoundaryEvents_auxiliary) (disarmBoundaryEvents_tracks _ _ _)

theorem Runs.completion (hd : d.Accepted) (h : Runs d engine occurredAt p events r)
    (hj : JoinsOpen p.routing) (hb : Balanced p) (hne : p.pending ≠ []) : RunCompletion p.routing events r := by
  induction h with
  | done hp => exact absurd hp hne
  | @step p p' current scope rest first later r hp ha hr ih =>
    obtain ⟨hj',hb'⟩ := ha.balanced hd hj (hb.pop hp)
    rcases ha.completion with ⟨t,rfl,rfl,hw⟩ | ⟨hf,hl⟩
    · -- nothing is outstanding, so no join waits and the work-list is empty
      have hlen := hb.pop hp
      rw [deficit_eq_zero hw, Nat.le_zero, length_eq_zero_iff] at hlen
      cases hr with
      | done => exact RunCompletion.completes (forall_mem_nil _) (Tracks.nil _) hw
      | step hp' => simp only [hlen] at hp'; cases hp'
    · by_cases hp' : p'.pending = []
      · cases hr with
        | done =>
          refine .continues (by simpa using hf) ?_
          exact hl.resolve_left fun h => h hp'
        | step hp'' => rw [hp'] at hp''; cases hp''
      · exact (ih hj' hb' hp').prepend hf ha.tracks

end Completion

end BpmpPlatform
