import BpmpPlatform.Runtime.StorableRuns

/-! # Iterations of a multi-instance activity

The indices started so far are exactly those running or completed, and every free slot is filled as long as indices
remain.
-/
namespace BpmpPlatform
open Std Outcome RoutingState

structure IterationsExact (a : ActiveMultiInstance) : Prop where
  started : ∀ i, i ∈ a.activeIterations ∨ i ∈ a.completedIterations ↔ i < a.nextIteration
  disjoint : ∀ i ∈ a.activeIterations, i ∉ a.completedIterations
  counted : a.activeIterations.size + a.completedIterations.size = a.nextIteration
  next_le : a.nextIteration ≤ a.totalInstances

/-- No slot is idle while an iteration remains, and something is running. -/
structure SlotsFilled (a : ActiveMultiInstance) : Prop extends IterationsExact a where
  parallelism : 1 ≤ a.maxParallelism
  filled : a.activeIterations.size = min a.maxParallelism (a.totalInstances - a.completedIterations.size)
  running : 0 < a.activeIterations.size

variable {a : ActiveMultiInstance} {d : WorkflowDefinition} {now : Nat} {events : List DomainEvent}

section Records
open IterationsExact
variable {i : Nat}

theorem IterationsExact.next_fresh (h : IterationsExact a) : a.nextIteration ∉ a.activeIterations := fun hin =>
  Nat.lt_irrefl _ ((h.started _).mp (.inl hin))

theorem IterationsExact.size_advance (h : IterationsExact a) :
    a.advance.activeIterations.size = a.activeIterations.size + 1 := by
  simp [ActiveMultiInstance.advance, ExtTreeSet.size_insert, h.next_fresh]

theorem IterationsExact.size_retire (hi : i ∈ a.activeIterations) :
    (a.retire i).activeIterations.size + 1 = a.activeIterations.size := by
  have hpos : 0 < a.activeIterations.size := by
    rw [← ExtTreeSet.length_toList]
    exact List.length_pos_of_mem (ExtTreeSet.mem_toList.mpr hi)
  simp only [ActiveMultiInstance.retire, ExtTreeSet.size_erase, ExtTreeSet.contains_iff_mem.mpr hi, ↓reduceIte]
  omega

theorem IterationsExact.completed_retire (h : IterationsExact a) (hi : i ∈ a.activeIterations) :
    (a.retire i).completedIterations.size = a.completedIterations.size + 1 := by
  simp [ActiveMultiInstance.retire, ExtTreeSet.size_insert, h.disjoint i hi]

theorem IterationsExact.advance (h : IterationsExact a) (hn : a.nextIteration < a.totalInstances) :
    IterationsExact a.advance := by
  have hmem : ∀ j, j ∈ a.advance.activeIterations ↔ a.nextIteration = j ∨ j ∈ a.activeIterations := by
    intro j
    simp [ActiveMultiInstance.advance, ExtTreeSet.mem_insert]
  refine ⟨?_,?_,?_,hn⟩
  · intro j
    have hj := h.started j
    change j ∈ a.advance.activeIterations ∨ j ∈ a.completedIterations ↔ j < a.nextIteration + 1
    rw [hmem, or_assoc, hj]
    omega
  · intro j hj hd
    rcases (hmem j).mp hj with rfl | hj
    · exact Nat.lt_irrefl _ ((h.started _).mp (.inr hd))
    · exact h.disjoint j hj hd
  · rw [h.size_advance]
    have := h.counted
    change _ + a.completedIterations.size = a.nextIteration + 1
    omega

theorem IterationsExact.retire (h : IterationsExact a) (hi : i ∈ a.activeIterations) :
    IterationsExact (a.retire i) := by
  have hrun : ∀ j, j ∈ (a.retire i).activeIterations ↔ i ≠ j ∧ j ∈ a.activeIterations := by
    intro j
    simp [ActiveMultiInstance.retire, ExtTreeSet.mem_erase]
  have hdo : ∀ j, j ∈ (a.retire i).completedIterations ↔ i = j ∨ j ∈ a.completedIterations := by
    intro j
    simp [ActiveMultiInstance.retire, ExtTreeSet.mem_insert]
  refine ⟨?_,?_,?_,h.next_le⟩
  · intro j
    rw [hrun, hdo]
    change _ ↔ j < a.nextIteration
    rw [← h.started j]
    by_cases hij : i = j
    · subst hij; simp [hi]
    · simp [hij]
  · intro j hj hd
    obtain ⟨hne,hj⟩ := (hrun j).mp hj
    rcases (hdo j).mp hd with rfl | hd
    · exact hne rfl
    · exact h.disjoint j hj hd
  · have hr := size_retire hi
    have hc := h.completed_retire hi
    have := h.counted
    change _ = a.nextIteration
    omega

/-- A finished iteration frees a slot; while indices remain, starting the next one fills it again. -/
theorem SlotsFilled.replenish (h : SlotsFilled a) (hi : i ∈ a.activeIterations)
    (hn : a.nextIteration < a.totalInstances) : SlotsFilled (a.retire i).advance := by
  have hre := h.toIterationsExact.retire hi
  have hs := size_retire hi
  have hd := h.toIterationsExact.completed_retire hi
  have hc := h.counted
  have hfi := h.filled
  have hadv := hre.size_advance
  refine ⟨hre.advance hn,h.parallelism,?_,by omega⟩
  change _ = min a.maxParallelism (a.totalInstances - (a.retire i).completedIterations.size)
  omega

/-- When no index remains, the running iterations are all that is left. -/
theorem SlotsFilled.drain (h : SlotsFilled a) (hi : i ∈ a.activeIterations) (hn : a.totalInstances ≤ a.nextIteration)
    (ho : (a.retire i).completedIterations.size ≠ a.totalInstances) : SlotsFilled (a.retire i) := by
  have hs := size_retire hi
  have hd := h.toIterationsExact.completed_retire hi
  have hc := h.counted
  have hfi := h.filled
  have hle := h.next_le
  refine ⟨h.toIterationsExact.retire hi,h.parallelism,?_,by omega⟩
  change _ = min a.maxParallelism (a.totalInstances - (a.retire i).completedIterations.size)
  omega

/-- Nothing runs any more once every iteration has completed. -/
theorem IterationsExact.idle (h : IterationsExact a) (hall : a.completedIterations.size = a.totalInstances) :
    a.activeIterations.toList = [] := by
  have hc := h.counted
  have hle := h.next_le
  rw [← List.length_eq_zero_iff, ExtTreeSet.length_toList]
  omega

end Records

def AllSlotsFilled (r : RoutingState) : Prop :=
  ∀ (n : NodeId) a, r.activeMultiInstances[n]? = some a → SlotsFilled a

def IterationFits (r : RoutingState) : DomainEvent → Prop
  | .multiInstanceIterationActivated n _ i _ _ =>
    ∃ a, r.activeMultiInstances[n]? = some a ∧ i = a.nextIteration ∧ i < a.totalInstances ∧ i < u32Max
  | .multiInstanceIterationCompleted n i _ => ∃ a, r.activeMultiInstances[n]? = some a ∧ i ∈ a.activeIterations
  | .multiInstanceCompleted n conditionSatisfied cancelled _ =>
    ∃ a, r.activeMultiInstances[n]? = some a ∧ cancelled = a.activeIterations.toList ∧
      (conditionSatisfied = false → a.completedIterations.size = a.totalInstances)
  | .boundaryEventTriggered _ n _ true cancelled _ _ =>
    ∀ a, r.activeMultiInstances[n]? = some a → cancelled = a.activeIterations.toList
  | .workflowCompleted _ => r.activeMultiInstances = ∅
  | .workflowTerminatedForCompliance _ _ _ _ _ => False
  | _ => True

section Operations
variable {r r₁ r₂ : RoutingState} {n : NodeId} {e : DomainEvent}

theorem withMultiInstance_getElem? : (r.withMultiInstance n a).activeMultiInstances[n]? = some a := by
  simp only [withMultiInstance, getElem?_insert_eq, ↓reduceIte]

theorem AllSlotsFilled.withMultiInstance (h : AllSlotsFilled r) (ha : SlotsFilled a) :
    AllSlotsFilled (r.withMultiInstance n a) := by
  intro m a' hm
  simp only [RoutingState.withMultiInstance] at hm
  rcases of_getElem?_insert hm with ⟨-,rfl⟩ | hm
  · exact ha
  · exact h m a' hm

theorem AllSlotsFilled.finish (h : AllSlotsFilled r) (n : NodeId) : AllSlotsFilled (r.finishMultiInstance n) := by
  intro m a hm
  simp only [finishMultiInstance] at hm
  exact h m a (of_getElem?_erase hm)

theorem AllSlotsFilled.congr (h : AllSlotsFilled r) (hm : r₁.activeMultiInstances = r.activeMultiInstances) :
    AllSlotsFilled r₁ := by
  intro n a ha
  rw [hm] at ha
  exact h n a ha

theorem armBoundaryEvents_multiInstances (h : armBoundaryEvents d n now r = .ok (events, r₁)) :
    r₁.activeMultiInstances = r.activeMultiInstances := by
  rw [armBoundaryEvents_frame h]

theorem armBoundaryEvents_iterationFits (h : armBoundaryEvents d n now r = .ok (events, r₁)) :
    EachEvent IterationFits r₂ events := by
  exact eachEvent_of_forall (armBoundaryEvents_forall h fun _ _ _ => trivial)

theorem disarmBoundaryEvents_iterationFits : EachEvent IterationFits r₂ (disarmBoundaryEvents n now r).1 := by
  refine eachEvent_of_forall fun e he r => ?_
  rw [disarmBoundaryEvents_shape he]
  trivial

theorem disarmBoundaryEvents_multiInstances (n : NodeId) (now : Nat) (r : RoutingState) :
    (disarmBoundaryEvents n now r).2.activeMultiInstances = r.activeMultiInstances := by
  simp only [disarmBoundaryEvents, disarmBoundaries_eq]

/-- The first iterations: `k` more indices run, and nothing else in the record changes. -/
theorem activateIterations_exact {k : Nat} (ha : r.activeMultiInstances[n]? = some a) (hex : IterationsExact a)
    (h : activateIterations n now k r = .ok (events, r₁)) :
    EachEvent IterationFits r events ∧ ∃ a', r₁ = r.withMultiInstance n a' ∧ IterationsExact a' ∧
      a'.activeIterations.size = a.activeIterations.size + k ∧ a'.completedIterations = a.completedIterations ∧
      a'.totalInstances = a.totalInstances ∧ a'.maxParallelism = a.maxParallelism := by
  induction k generalizing r a events with
  | zero =>
    cases h
    exact ⟨trivial,a,by simp only [withMultiInstance, insert_eq_self ha],hex,rfl,rfl,rfl,rfl⟩
  | succ k ih =>
    simp only [activateIterations, bind_eq_ok] at h
    obtain ⟨⟨r₂,iteration,taskType,item⟩,h₁,⟨later,r₃⟩,h₂,⟨⟩⟩ := h
    have htr : routeEvent r (.multiInstanceIterationActivated n taskType iteration item now) = r₂ :=
      activateNextMultiInstance_tracks h₁
    obtain ⟨a₁,ha₁,hn,_,hlt,rfl,rfl,_⟩ := activateNextMultiInstance_eq_ok.mp h₁
    rw [ha] at ha₁
    cases ha₁
    have hin : (r.withMultiInstance n a.advance).activeMultiInstances[n]? = some a.advance :=
      withMultiInstance_getElem?
    obtain ⟨hf,a',rfl,hex',hs,hd,hto,hpar⟩ := ih hin (hex.advance hn) h₂
    refine ⟨⟨⟨a,ha,rfl,hn,hlt⟩,?_⟩,a',?_,hex',?_,hd,hto,hpar⟩
    · rw [htr]; exact hf
    · simp only [withMultiInstance, insert_insert]
    · rw [hs, hex.size_advance]; omega

theorem startMultiInstance_iterations (hd : d.Accepted) {taskType : TaskType} {spec : MultiInstanceDefinition}
    {vars : Variables} {engine : EnginePolicy} {completed : Bool} (hsp : d.multiInstance n = some spec)
    (hs : AllSlotsFilled r)
    (h : startMultiInstance n taskType spec vars engine now r = .ok (events, r₁, completed)) :
    AllSlotsFilled r₁ ∧ EachEvent IterationFits r events := by
  obtain ⟨total,items,hst,⟨rfl,_,rfl,rfl⟩ | ⟨hpos,_,later,rfl,hit⟩⟩ := startMultiInstance_cases h
  · exact ⟨hs,trivial,⟨_,withMultiInstance_getElem? (r := r₁),rfl,fun _ => rfl⟩,trivial⟩
  · have hi : IterationsExact (initialMultiInstance taskType spec engine total items) := by
      refine ⟨?_,?_,rfl,Nat.zero_le _⟩ <;> simp [initialMultiInstance]
    obtain ⟨hf,a,rfl,hex,hsi,hdo,hto,hpar⟩ := activateIterations_exact withMultiInstance_getElem? hi hit
    obtain ⟨hone,hle⟩ := effectiveParallelism_bounds hd hsp engine total
    have hfi : SlotsFilled a := by
      have hs' : a.activeIterations.size = effectiveParallelism engine spec total := by
        rw [hsi]; exact Nat.zero_add _
      have hpar' : a.maxParallelism = effectiveParallelism engine spec total := hpar
      have hto' : a.totalInstances = total := hto
      have hd' : a.completedIterations.size = 0 := by rw [hdo]; rfl
      exact ⟨hex,by omega,by omega,by omega⟩
    refine ⟨?_,trivial,hf⟩
    have hr : (r.withMultiInstance n (initialMultiInstance taskType spec engine total items)).withMultiInstance n a =
        r.withMultiInstance n a := by
      simp only [withMultiInstance, insert_insert]
    rw [hr]
    exact hs.withMultiInstance hfi

end Operations

section Decisions
variable {engine : EnginePolicy} {current : NodeId} {scope : Option ScopeInstanceId} {p p' : Progress}
  {r : RoutingState}

theorem Activates.iterations (hd : d.Accepted) (h : Activates d engine now current scope p events p')
    (hs : AllSlotsFilled p.routing) : AllSlotsFilled p'.routing ∧ EachEvent IterationFits p.routing events := by
  cases h with
  | task hn hact hmi he ht ha =>
    obtain ⟨_,rfl⟩ := activateTask_eq_ok.mp ht
    have hmap := armBoundaryEvents_multiInstances ha
    refine ⟨hs.congr hmap,?_,armBoundaryEvents_iterationFits ha⟩
    cases he <;> trivial
  | multiInstance hn hact hmi hst ha =>
    obtain ⟨hs',hf⟩ := startMultiInstance_iterations hd hmi hs hst
    exact ⟨hs'.congr (armBoundaryEvents_multiInstances ha),
      hf.append (startMultiInstance_tracks hst) (armBoundaryEvents_iterationFits ha)⟩
  | emptyMultiInstance hn hact hmi hst => exact startMultiInstance_iterations hd hmi hs hst
  | decision => exact ⟨hs,trivial,trivial⟩
  | scopeEnd hn ho hsc hc =>
    obtain ⟨_,_,rfl⟩ := completeScope_eq_ok.mp hc
    exact ⟨hs.congr (disarmBoundaryEvents_multiInstances _ now _),trivial,disarmBoundaryEvents_iterationFits⟩
  | branchEnd => exact ⟨hs,trivial,trivial⟩
  | completed hn ho hw =>
    simp only [hasOutstandingWork, Bool.or_eq_false_iff, Bool.not_eq_false', ExtTreeMap.isEmpty_iff] at hw
    exact ⟨hs,hw.1.1.2,trivial⟩
  | start | exclusive => exact ⟨hs,trivial⟩
  | split hn hsel ho =>
    obtain ⟨_,_,rfl⟩ := openJoin_eq_ok.mp ho
    exact ⟨hs,trivial,trivial⟩
  | arrive hn hj ha =>
    obtain ⟨_,_,_,rfl⟩ := arrive_open ha
    exact ⟨hs,trivial,trivial⟩
  | join hn hj ha =>
    obtain ⟨_,_,_,hcl⟩ := arrive_close ha
    rw [hcl]
    exact ⟨hs,trivial,trivial,trivial⟩
  | enter hn he ha =>
    obtain ⟨_,_,_,_,rfl⟩ := enterScope_eq_ok.mp he
    have hmap := armBoundaryEvents_multiInstances ha
    exact ⟨hs.congr hmap,trivial,armBoundaryEvents_iterationFits ha⟩

theorem Runs.iterations (hd : d.Accepted) (h : Runs d engine now p events r)
    (hs : AllSlotsFilled p.routing) : AllSlotsFilled r ∧ EachEvent IterationFits p.routing events := by
  induction h with
  | done => exact ⟨hs,trivial⟩
  | step hp ha hr ih =>
    obtain ⟨hs',hf⟩ := ha.iterations hd hs
    obtain ⟨hr',hl⟩ := ih hs'
    exact ⟨hr',hf.append ha.tracks hl⟩

variable {s : InstanceState} {context : DecisionContext} {command : Command}
variable {nodeId : NodeId} {iteration : Nat} {r₁ : RoutingState}

/-- What a successful completion of one iteration has found, and how it goes on: the activity ends when every
iteration has completed or the condition holds, and otherwise the free slot is filled if an index remains. -/
theorem completeMultiInstanceIteration_cases
    (h : completeMultiInstanceIteration d s context nodeId iteration now = .ok (events, r)) :
    ∃ a spec next later, s.activeMultiInstances[nodeId]? = some a ∧ iteration ∈ a.activeIterations ∧
      d.multiInstance nodeId = some spec ∧
      events = .multiInstanceIterationCompleted nodeId iteration now :: later ∧
      let r₁ := s.routing.withMultiInstance nodeId (a.retire iteration)
      let Condition (value : Bool) := evaluateMultiInstanceCompletion s context nodeId spec r₁ = .ok value
      ((∃ early, (early = false → (a.retire iteration).completedIterations.size = a.totalInstances) ∧
          (early = true → Condition true) ∧ finishActivity d s context nodeId next early now r₁ = .ok (later, r)) ∨
        (a.retire iteration).completedIterations.size ≠ a.totalInstances ∧ Condition false ∧
          continueActivity nodeId now r₁ = .ok (later, r)) := by
  simp only [completeMultiInstanceIteration, bind_eq_ok, okOr_eq_ok] at h
  obtain ⟨_,_,next,_,_,_,_,_,⟨r₁,completed⟩,hc,spec,hs,condition,hcon,⟨later,r₂⟩,haf,⟨⟩⟩ := h
  obtain ⟨a,ha,hin,rfl,hco⟩ := completeMultiInstanceIteration_eq_ok.mp hc
  refine ⟨a,spec,next,later,ha,hin,hs,rfl,?_⟩
  simp only at hco hcon haf
  unfold conditionAfterIteration at hcon
  unfold afterIteration at haf
  by_cases hall : (a.retire iteration).completedIterations.size = a.totalInstances
  · have hc : completed = true := by rw [hco, hall, beq_self_eq_true]
    subst hc
    cases hcon
    exact .inl ⟨false,fun _ => hall,by simp,haf⟩
  · have hc : completed = false := by rw [hco]; exact beq_eq_false_iff_ne.mpr hall
    subst hc
    cases condition with
    | true => exact .inl ⟨true,by simp,fun _ => hcon,haf⟩
    | false => exact .inr ⟨hall,hcon,haf⟩

theorem finishActivity_iterations (hd : d.Accepted) {next : NodeId} {conditionSatisfied : Bool}
    (ha : r₁.activeMultiInstances[nodeId]? = some a) (hex : IterationsExact a)
    (hs : AllSlotsFilled (r₁.finishMultiInstance nodeId))
    (hall : conditionSatisfied = false → a.completedIterations.size = a.totalInstances)
    (h : finishActivity d s context nodeId next conditionSatisfied now r₁ = .ok (events, r)) :
    AllSlotsFilled r ∧ EachEvent IterationFits r₁ events ∧ ∃ later,
      events = .multiInstanceCompleted nodeId conditionSatisfied a.activeIterations.toList now :: later := by
  simp only [finishActivity, bind_eq_ok] at h
  obtain ⟨scope,_,⟨later,r₂⟩,hr,⟨⟩⟩ := h
  have hca : (if conditionSatisfied then
      (r₁.activeMultiInstances[nodeId]?.map fun active => active.activeIterations.toList).getD [] else []) =
      a.activeIterations.toList := by
    cases conditionSatisfied with
    | true => simp only [ha, ↓reduceIte, Option.map_some, Option.getD_some]
    | false => exact (hex.idle (hall rfl)).symm
  rw [hca]
  obtain ⟨hs',hf⟩ := (activationEvents_runs hr).iterations hd
    (hs.congr (disarmBoundaryEvents_multiInstances nodeId now _))
  refine ⟨hs',⟨⟨a,ha,rfl,hall⟩,?_⟩,_,rfl⟩
  exact disarmBoundaryEvents_iterationFits.append (disarmBoundaryEvents_tracks _ _ _) hf

theorem AllSlotsFilled.finish_withMultiInstance {n : NodeId} (hs : AllSlotsFilled r) :
    AllSlotsFilled ((r.withMultiInstance n a).finishMultiInstance n) := by
  have heq : (r.withMultiInstance n a).finishMultiInstance n = r.finishMultiInstance n := by
    simp only [RoutingState.withMultiInstance, finishMultiInstance, erase_insert]
  rw [heq]
  exact hs.finish n

theorem continueActivity_iterations (hs : AllSlotsFilled r) (ha : r.activeMultiInstances[nodeId]? = some a)
    (hin : iteration ∈ a.activeIterations) (ho : (a.retire iteration).completedIterations.size ≠ a.totalInstances)
    (h : continueActivity nodeId now (r.withMultiInstance nodeId (a.retire iteration)) = .ok (events, r₁)) :
    AllSlotsFilled r₁ ∧ EachEvent IterationFits (r.withMultiInstance nodeId (a.retire iteration)) events := by
  have hfi := hs nodeId a ha
  have hget := withMultiInstance_getElem? (r := r) (n := nodeId) (a := a.retire iteration)
  simp only [continueActivity, bind_eq_ok, okOr_eq_ok] at h
  obtain ⟨active,hact,h⟩ := h
  rw [hget] at hact
  cases hact
  split at h
  · rename_i hne
    simp only [bind_eq_ok] at h
    obtain ⟨⟨r₂,i,taskType,item⟩,hn,⟨⟩⟩ := h
    obtain ⟨a₁,ha₁,hlt,_,hmax,rfl,rfl,_⟩ := activateNextMultiInstance_eq_ok.mp hn
    rw [hget] at ha₁
    cases ha₁
    refine ⟨?_,⟨_,hget,rfl,hlt,hmax⟩,trivial⟩
    have heq : (r.withMultiInstance nodeId (a.retire iteration)).withMultiInstance nodeId (a.retire iteration).advance =
        r.withMultiInstance nodeId (a.retire iteration).advance := by
      simp only [withMultiInstance, insert_insert]
    change AllSlotsFilled (withMultiInstance _ nodeId (a.retire iteration).advance)
    rw [heq]
    exact hs.withMultiInstance (hfi.replenish hin hne)
  · rename_i hne
    cases h
    exact ⟨hs.withMultiInstance (hfi.drain hin (Nat.le_of_not_lt hne) ho),trivial⟩

theorem completeMultiInstanceIteration_iterations (hd : d.Accepted) (hs : AllSlotsFilled s.routing)
    (h : completeMultiInstanceIteration d s context nodeId iteration now = .ok (events, r)) :
    AllSlotsFilled r ∧ EachEvent IterationFits s.routing events := by
  obtain ⟨a,spec,next,later,ha,hin,_,rfl,haf⟩ := completeMultiInstanceIteration_cases h
  have hex := (hs nodeId a ha).toIterationsExact.retire hin
  have hget := withMultiInstance_getElem? (r := s.routing) (n := nodeId) (a := a.retire iteration)
  have htr : routeEvent s.routing (.multiInstanceIterationCompleted nodeId iteration now) =
      s.routing.withMultiInstance nodeId (a.retire iteration) :=
    completeMultiInstanceIteration_tracks (completeMultiInstanceIteration_eq_ok.mpr ⟨a,ha,hin,rfl,rfl⟩)
  have hb : AllSlotsFilled r ∧
      EachEvent IterationFits (s.routing.withMultiInstance nodeId (a.retire iteration)) later := by
    rcases haf with ⟨early,hall,_,hfin⟩ | ⟨ho,_,hc⟩
    · obtain ⟨hr,hf,_⟩ := finishActivity_iterations hd hget hex hs.finish_withMultiInstance hall hfin
      exact ⟨hr,hf⟩
    · exact continueActivity_iterations hs ha hin ho hc
  refine ⟨hb.1,⟨a,ha,hin⟩,?_⟩
  rw [htr]
  exact hb.2

theorem interruptActivity_slotsFilled {cancelActivity : Bool} {owner : NodeId} (hpos : TokensPositive s.routing)
    (hs : AllSlotsFilled s.routing) (h : interruptActivity s cancelActivity owner = .ok r) : AllSlotsFilled r := by
  cases cancelActivity with
  | true =>
    rw [interruptActivity_routing hpos h, disarmBoundaries_eq]
    exact hs.finish owner
  | false => cases h; exact hs

theorem triggerBoundaryEvent_iterations (hd : d.Accepted) {boundaryEventId : NodeId}
    (hpos : TokensPositive s.routing) (hs : AllSlotsFilled s.routing)
    (h : triggerBoundaryEvent d s context boundaryEventId now = .ok (events, r)) :
    AllSlotsFilled r ∧ EachEvent IterationFits s.routing events := by
  simp only [triggerBoundaryEvent, bind_eq_ok, okOr_eq_ok, ensure_eq_ok] at h
  obtain ⟨sub,_,⟨owner,boundary⟩,_,_,_,_,_,_,_,cancelled,hca,r₁,hr₁,scope,_,⟨later,r₂⟩,hr,⟨⟩⟩ := h
  obtain ⟨hs',hf⟩ := (activationEvents_runs hr).iterations hd (interruptActivity_slotsFilled hpos hs hr₁)
  refine ⟨hs',?_,?_⟩
  · cases hc : boundary.cancelActivity with
    | true =>
      intro a ha
      have ha' : s.activeMultiInstances[sub.attachedNodeId]? = some a := ha
      simp only [ha', ↓reduceIte, Option.map_some, Option.getD_some]
    | false => trivial
  · rw [interruptActivity_tracks hpos hr₁]
    rcases cancellationEvents_cases hca with rfl | ⟨reason,rfl⟩
    · exact hf
    · exact ⟨trivial,hf⟩

theorem iterationFits_of_isCase {e : DomainEvent} (h : e.isCase = true) : IterationFits r e := by
  cases e with
  | caseActivated | caseSentrySatisfied | casePlanItemTransitioned | caseCompleted => trivial
  | _ => cases h

theorem decideRouting_iterations (hd : d.Accepted) (hpos : TokensPositive s.routing)
    (hs : AllSlotsFilled s.routing) (h : decideRouting d s command context = .ok (events, r)) :
    AllSlotsFilled r ∧ EachEvent IterationFits s.routing events := by
  cases decideRouting_decides h with
  | activateCase hca =>
    exact ⟨hs,eachEvent_of_forall fun e he r => iterationFits_of_isCase (activateCase_isCase hca e he)⟩
  | evaluateCaseSentries hca =>
    exact ⟨hs,eachEvent_of_forall fun e he r => iterationFits_of_isCase (evaluateCaseSentries_isCase hca e he)⟩
  | start hl hn hr =>
    obtain ⟨hs',hf⟩ := hr.iterations hd hs
    exact ⟨hs',trivial,hf⟩
  | @task _ nodeId _ _ _ t _ _ _ _ _ hl hn hact he hc hsc hr =>
    have htr := completeTask_tracks he hc
    obtain ⟨_,_,rfl⟩ := completeTask_eq_ok.mp hc
    obtain ⟨hs',hf⟩ := hr.iterations hd (hs.congr (disarmBoundaryEvents_multiInstances nodeId t _))
    refine ⟨hs',?_,?_⟩
    · cases he <;> trivial
    · rw [htr]
      exact disarmBoundaryEvents_iterationFits.append (disarmBoundaryEvents_tracks _ _ _) hf
  | iteration => exact completeMultiInstanceIteration_iterations hd hs (handler_of_decideRouting h)
  | trigger => exact triggerBoundaryEvent_iterations hd hpos hs (handler_of_decideRouting h)

theorem History.iterations (hd : d.Accepted) {batches : List (List DomainEvent)} (h : History d s batches) :
    AllSlotsFilled s.routing ∧ EachEvent IterationFits (InstanceState.routing {}) batches.flatten ∧
      Tracks batches.flatten (InstanceState.routing {}) s.routing := by
  induction h with
  | initial => exact ⟨fun n a ha => by simp [InstanceState.routing] at ha,trivial,.nil _⟩
  | @step s batches command context events hs hdec ih =>
    obtain ⟨hfi,hf,htr⟩ := ih
    obtain ⟨r,hr⟩ := decideEvents_eq_ok.mp hdec
    obtain ⟨hfi',hf'⟩ := decideRouting_iterations hd hs.reachable.tokensPositive hfi hr
    rw [List.flatten_concat, decideRouting_agrees hs.reachable hr]
    refine ⟨hfi',hf.append htr hf',htr.append ?_⟩
    exact (decideRouting_decides hr).tracks hs.reachable.tokensPositive

end Decisions

end BpmpPlatform
