import BpmpPlatform.Runtime.MultiInstances
import BpmpPlatform.Runtime.Emissions

/-! # One activation of a multi-instance activity

Between the start and the end of an activation the indices are started in increasing order, completed at most once,
and those still running at the end are reported as cancelled.
-/
namespace BpmpPlatform
open Std Outcome InstanceState RoutingState List

def startedIterations (n : NodeId) (events : List DomainEvent) : List Nat :=
  events.filterMap fun
    | .multiInstanceIterationActivated m _ i _ _ => if m = n then some i else none
    | _ => none

def completedIterations (n : NodeId) (events : List DomainEvent) : List Nat :=
  events.filterMap fun
    | .multiInstanceIterationCompleted m i _ => if m = n then some i else none
    | _ => none

def DomainEvent.bounds (n : NodeId) : DomainEvent → Bool
  | .multiInstanceStarted m _ _ _ _ _ _ _ | .multiInstanceCompleted m _ _ _
  | .boundaryEventTriggered _ m _ true _ _ _ => m == n
  | _ => false

structure Stretch (n : NodeId) (a a' : ActiveMultiInstance) (events : List DomainEvent) : Prop where
  exact : IterationsExact a'
  total : a'.totalInstances = a.totalInstances
  next : startedIterations n events = List.range' a.nextIteration (a'.nextIteration - a.nextIteration)
  next_le : a.nextIteration ≤ a'.nextIteration
  nodup : (completedIterations n events).Nodup
  fresh : ∀ i ∈ completedIterations n events, i ∉ a.completedIterations
  completed : ∀ i, i ∈ a'.completedIterations ↔ i ∈ a.completedIterations ∨ i ∈ completedIterations n events

variable {n : NodeId} {r : RoutingState} {events : List DomainEvent} {d : WorkflowDefinition} {taskType : TaskType}
  {i : Nat} {context : DecisionContext}

section Stretches
variable {a a' : ActiveMultiInstance} {e : DomainEvent}

theorem Stretch.nil (h : IterationsExact a) : Stretch n a a [] where
  exact := h
  total := rfl
  next := by simp [startedIterations]
  next_le := Nat.le_refl _
  nodup := by simp [completedIterations]
  fresh := by simp [completedIterations]
  completed := by simp [completedIterations]

theorem Stretch.skip (hs : startedIterations n [e] = []) (hc : completedIterations n [e] = [])
    (h : Stretch n a a' events) : Stretch n a a' (e :: events) := by
  have hs' : startedIterations n (e :: events) = startedIterations n events := by
    rw [← singleton_append, startedIterations, filterMap_append]
    exact (congrArg (· ++ _) hs).trans (nil_append _)
  have hc' : completedIterations n (e :: events) = completedIterations n events := by
    rw [← singleton_append, completedIterations, filterMap_append]
    exact (congrArg (· ++ _) hc).trans (nil_append _)
  exact ⟨h.exact,h.total,hs' ▸ h.next,h.next_le,hc' ▸ h.nodup,hc' ▸ h.fresh,hc' ▸ h.completed⟩

variable {t : Nat} {item : Option WorkflowValue}

theorem Stretch.advance (h : Stretch n a.advance a' events) :
    Stretch n a a' (.multiInstanceIterationActivated n taskType a.nextIteration item t :: events) := by
  have hle : a.nextIteration + 1 ≤ a'.nextIteration := h.next_le
  have hs : startedIterations n (.multiInstanceIterationActivated n taskType a.nextIteration item t :: events) =
      a.nextIteration :: startedIterations n events := by simp [startedIterations]
  refine ⟨h.exact,h.total,?_,by omega,h.nodup,h.fresh,h.completed⟩
  obtain ⟨k,hk⟩ : ∃ k, a'.nextIteration - a.nextIteration = k + 1 := ⟨a'.nextIteration - a.nextIteration - 1,by omega⟩
  have hk' : a'.nextIteration - a.advance.nextIteration = k := by
    change a'.nextIteration - (a.nextIteration + 1) = k
    omega
  rw [hs, h.next, hk, hk', List.range'_succ]
  rfl

theorem Stretch.retire (hi : i ∉ a.completedIterations) (h : Stretch n (a.retire i) a' events) :
    Stretch n a a' (.multiInstanceIterationCompleted n i t :: events) := by
  have hc : completedIterations n (.multiInstanceIterationCompleted n i t :: events) =
      i :: completedIterations n events := by simp [completedIterations]
  have hmem : ∀ j, j ∈ (a.retire i).completedIterations ↔ i = j ∨ j ∈ a.completedIterations := by
    intro j
    simp [ActiveMultiInstance.retire, ExtTreeSet.mem_insert]
  refine ⟨h.exact,h.total,h.next,h.next_le,?_,?_,?_⟩
  · rw [hc, nodup_cons]
    exact ⟨fun hin => h.fresh i hin ((hmem i).mpr (.inl rfl)),h.nodup⟩
  · rw [hc, forall_mem_cons]
    exact ⟨hi,fun j hj hd => h.fresh j hj ((hmem j).mpr (.inr hd))⟩
  · intro j
    rw [hc, h.completed j, hmem, mem_cons, eq_comm (a := i), or_assoc, or_left_comm]

/-- An event about no iteration of `n` that neither begins nor ends an activation of `n` keeps its record. -/
theorem routeEvent_keeps_record (hf : IterationFits r e) (ha : r.activeMultiInstances[n]? = some a)
    (hb : e.bounds n = false) (hs : startedIterations n [e] = []) (hc : completedIterations n [e] = []) :
    (routeEvent r e).activeMultiInstances[n]? = some a := by
  cases e with
  | multiInstanceStarted m =>
    have hne : m ≠ n := beq_eq_false_iff_ne.mp hb
    simp only [routeEvent, applyEvent, toState, routing, getElem?_insert_eq, hne, ↓reduceIte, ha]
  | multiInstanceCompleted m =>
    have hne : m ≠ n := beq_eq_false_iff_ne.mp hb
    simp only [routeEvent, applyEvent, toState, routing, getElem?_erase_eq, hne, ↓reduceIte, ha]
  | multiInstanceIterationActivated m =>
    have hne : m ≠ n := by rintro rfl; simp [startedIterations] at hs
    exact ((getElem?_adjust _ _ _ _).trans (if_neg hne)).trans ha
  | multiInstanceIterationCompleted m =>
    have hne : m ≠ n := by rintro rfl; simp [completedIterations] at hc
    exact ((getElem?_adjust _ _ _ _).trans (if_neg hne)).trans ha
  | boundaryEventTriggered _ m _ cancelActivity =>
    cases cancelActivity with
    | true =>
      have hne : m ≠ n := beq_eq_false_iff_ne.mp hb
      simp only [routeEvent, applyEvent, toState, routing, getElem?_erase_eq, hne, ↓reduceIte, ha]
    | false => exact ha
  | workflowCompleted =>
    have he : r.activeMultiInstances = ∅ := hf
    simp [he] at ha
  | workflowTerminatedForCompliance => exact hf.elim
  | _ => exact ha

/-- An event starts an iteration of `n`, completes one, or is about none. -/
theorem iteration_cases (n : NodeId) (e : DomainEvent) :
    (∃ taskType i item t, e = .multiInstanceIterationActivated n taskType i item t) ∨
      (∃ i t, e = .multiInstanceIterationCompleted n i t) ∨
      startedIterations n [e] = [] ∧ completedIterations n [e] = [] := by
  cases e with
  | multiInstanceIterationActivated m taskType i item t =>
    by_cases hm : m = n
    · exact .inl ⟨taskType,i,item,t,by rw [hm]⟩
    · exact .inr (.inr (by simp [startedIterations, completedIterations, hm]))
  | multiInstanceIterationCompleted m i t =>
    by_cases hm : m = n
    · exact .inr (.inl ⟨i,t,by rw [hm]⟩)
    · exact .inr (.inr (by simp [startedIterations, completedIterations, hm]))
  | _ => exact .inr (.inr ⟨rfl,rfl⟩)

theorem routeEvent_iterationActivated (ha : r.activeMultiInstances[n]? = some a) (hlt : a.nextIteration < u32Max) :
    routeEvent r (.multiInstanceIterationActivated n taskType a.nextIteration item t) =
      r.withMultiInstance n a.advance := by
  have hm : max a.nextIteration (a.nextIteration + 1) = a.nextIteration + 1 := by omega
  simp only [routeEvent, applyEvent, toState, routing, adjust, ha,
    saturatingSucc_of_lt hlt, hm, ActiveMultiInstance.advance, withMultiInstance]

/-- Events within one activation move its record along; the induction is on the events. -/
theorem Stretch.run (h : EachEvent IterationFits r events) (hb : ∀ e ∈ events, e.bounds n = false)
    (ha : r.activeMultiInstances[n]? = some a) (hex : IterationsExact a) :
    ∃ a', (events.foldl routeEvent r).activeMultiInstances[n]? = some a' ∧ Stretch n a a' events := by
  induction events generalizing r a with
  | nil => exact ⟨a,ha,.nil hex⟩
  | cons e events ih =>
    obtain ⟨hf,hl⟩ := h
    have hb' : ∀ e ∈ events, e.bounds n = false := fun e he => hb e (by simp [he])
    rcases iteration_cases n e with ⟨taskType,i,item,t,rfl⟩ | ⟨i,t,rfl⟩ | ⟨hs,hc⟩
    · obtain ⟨b,hget,rfl,hn,hlt⟩ := hf
      rw [ha] at hget
      cases hget
      rw [routeEvent_iterationActivated ha hlt] at hl
      obtain ⟨a',ha',hst⟩ := ih hl hb' withMultiInstance_getElem? (hex.advance hn)
      refine ⟨a',?_,hst.advance⟩
      rw [foldl_cons, routeEvent_iterationActivated ha hlt]
      exact ha'
    · obtain ⟨b,hget,hin⟩ := hf
      rw [ha] at hget
      cases hget
      have htr : routeEvent r (.multiInstanceIterationCompleted n i t) = r.withMultiInstance n (a.retire i) :=
        completeMultiInstanceIteration_tracks (completeMultiInstanceIteration_eq_ok.mpr ⟨a,ha,hin,rfl,rfl⟩)
      rw [htr] at hl
      obtain ⟨a',ha',hst⟩ := ih hl hb' withMultiInstance_getElem? (hex.retire hin)
      refine ⟨a',?_,hst.retire (hex.disjoint i hin)⟩
      rw [foldl_cons, htr]
      exact ha'
    · obtain ⟨a',ha',hst⟩ := ih hl hb' (routeEvent_keeps_record hf ha (hb e (by simp)) hs hc) hex
      exact ⟨a',ha',hst.skip hs hc⟩

section
variable (h : Stretch n a a' events)
include h

theorem Stretch.started (hn : a.nextIteration = 0) : startedIterations n events = List.range a'.nextIteration := by
  rw [h.next, hn, range_eq_range']
  rfl

/-- The running iterations are those started and not yet completed, in order. -/
theorem Stretch.running (hn : a.nextIteration = 0) (hd : a.completedIterations = ∅) :
    a'.activeIterations.toList = (startedIterations n events).filter (· ∉ completedIterations n events) := by
  have hco : ∀ i, i ∈ a'.completedIterations ↔ i ∈ completedIterations n events := by
    intro i
    rw [h.completed i, hd]
    simp
  have hs : a'.activeIterations.toList.Pairwise (· < ·) := by
    refine ExtTreeSet.ordered_toList.imp ?_
    intro i j hlt
    exact Nat.compare_eq_lt.mp hlt
  rw [h.started hn]
  refine hs.eq_of_mem_iff (pairwise_lt_range.filter _) ?_
  intro i
  rw [ExtTreeSet.mem_toList, mem_filter, mem_range, ← h.exact.started i, decide_eq_true_eq, ← hco i]
  constructor
  · intro hin
    exact ⟨.inl hin,h.exact.disjoint i hin⟩
  · rintro ⟨hin | hin,hnot⟩
    · exact hin
    · exact absurd hin hnot

theorem Stretch.length_completed (hd : a.completedIterations = ∅) :
    (completedIterations n events).length = a'.completedIterations.size := by
  have hnd : a'.completedIterations.toList.Nodup := by
    refine ExtTreeSet.ordered_toList.imp ?_
    intro i j hlt
    exact Nat.ne_of_lt (Nat.compare_eq_lt.mp hlt)
  rw [← ExtTreeSet.length_toList]
  refine ((perm_ext_iff_of_nodup h.nodup hnd).mpr ?_).length_eq
  intro i
  rw [ExtTreeSet.mem_toList, h.completed i, hd]
  simp

end

end Stretches

section Activation
variable {s : InstanceState} {batches : List (List DomainEvent)} {after : List DomainEvent} {t : Nat}

/-- An activity whose iterations stand as in the record ends: all have completed, or the condition holds. -/
def ActivityEnds (s : InstanceState) (context : DecisionContext) (n : NodeId) (spec : MultiInstanceDefinition)
    (a : ActiveMultiInstance) : Prop :=
  a.completedIterations.size = a.totalInstances ∨
    evaluateMultiInstanceCompletion s context n spec (s.routing.withMultiInstance n a) = .ok true

/-- What the events of one activation, as far as it has come, say about its iterations; `ending` is the event
that follows them, if there is one. -/
structure ActivationOnce (n : NodeId) (total : Nat) (events : List DomainEvent) (ending : Option DomainEvent) : Prop where
  increasing : ∃ k ≤ total, startedIterations n events = List.range k
  completedOnce : (completedIterations n events).Nodup
  completedStarted : completedIterations n events ⊆ startedIterations n events
  completedEnding : ∀ conditionSatisfied cancelled t,
    ending = some (.multiInstanceCompleted n conditionSatisfied cancelled t) →
      cancelled = (startedIterations n events).filter (· ∉ completedIterations n events) ∧
      (conditionSatisfied = false → (completedIterations n events).length = total)
  interruptedEnding : ∀ boundaryId target cancelled tokens t,
    ending = some (.boundaryEventTriggered boundaryId n target true cancelled tokens t) →
      cancelled = (startedIterations n events).filter (· ∉ completedIterations n events)

theorem Stretch.activationOnce {r : RoutingState} {a a' : ActiveMultiInstance} (h : Stretch n a a' events)
    (hn : a.nextIteration = 0) (hd : a.completedIterations = ∅) (ha' : r.activeMultiInstances[n]? = some a')
    (hf : EachEvent IterationFits r after) : ActivationOnce n a.totalInstances events after.head? := by
  have hst := h.started hn
  have hru := h.running hn hd
  refine ⟨⟨a'.nextIteration,h.total ▸ h.exact.next_le,hst⟩,h.nodup,?_,?_,?_⟩
  · intro i hi
    rw [hst, mem_range]
    exact (h.exact.started i).mp (.inr ((h.completed i).mpr (.inr hi)))
  · intro conditionSatisfied cancelled t hend
    obtain ⟨later,rfl⟩ := List.head?_eq_some_iff.mp hend
    obtain ⟨b,hb,hca,hall⟩ := hf.1
    rw [ha'] at hb
    cases hb
    exact ⟨hca.trans hru,fun hfa => by rw [h.length_completed hd, hall hfa, h.total]⟩
  · intro boundaryId target cancelled tokens t hend
    obtain ⟨later,rfl⟩ := List.head?_eq_some_iff.mp hend
    exact (hf.1 a' ha').trans hru

theorem History.activationOnce (hd : d.Accepted) (h : History d s batches) {mode : MultiInstanceMode}
    {total parallelism : Nat} {itemVariable : Option String} {items : List WorkflowValue} {before : List DomainEvent}
    (hrun : batches.flatten = before ++
      .multiInstanceStarted n taskType mode total parallelism itemVariable items t :: (events ++ after))
    (hb : ∀ e ∈ events, e.bounds n = false) : ActivationOnce n total events after.head? := by
  have hf := (h.iterations hd).2.1
  rw [hrun] at hf
  have hl := (hf.drop before).2
  have hget : (routeEvent (before.foldl routeEvent (routing {}))
      (.multiInstanceStarted n taskType mode total parallelism itemVariable items t)).activeMultiInstances[n]? =
      some ⟨taskType, mode, total, 0, parallelism, itemVariable, items, ∅, ∅⟩ := by
    simp only [routeEvent, applyEvent, toState, routing, getElem?_insert_eq, ↓reduceIte]
  have hi : IterationsExact ⟨taskType, mode, total, 0, parallelism, itemVariable, items, ∅, ∅⟩ := by
    refine ⟨?_,?_,rfl,Nat.zero_le _⟩ <;> simp
  obtain ⟨a',ha',hst⟩ := Stretch.run hl.take hb hget hi
  exact hst.activationOnce rfl rfl ha' (hl.drop events)

theorem completeMultiInstanceIteration_ends (hd : d.Accepted) (hs : AllSlotsFilled s.routing) {r : RoutingState}
    (h : completeMultiInstanceIteration d s context n i t = .ok (events, r)) :
    ∃ a spec later, s.activeMultiInstances[n]? = some a ∧ i ∈ a.activeIterations ∧ d.multiInstance n = some spec ∧
      events = .multiInstanceIterationCompleted n i t :: later ∧
      (ActivityEnds s context n spec (a.retire i) ∧ (∃ conditionSatisfied rest,
          later = .multiInstanceCompleted n conditionSatisfied (a.retire i).activeIterations.toList t :: rest) ∨
        ¬ActivityEnds s context n spec (a.retire i) ∧ ∀ e ∈ later, e.bounds n = false) := by
  obtain ⟨a,spec,next,later,ha,hin,hsp,rfl,haf⟩ := completeMultiInstanceIteration_cases h
  have hex := (hs n a ha).toIterationsExact.retire hin
  have hget := withMultiInstance_getElem? (r := s.routing) (n := n) (a := a.retire i)
  refine ⟨a,spec,later,ha,hin,hsp,rfl,?_⟩
  rcases haf with ⟨early,hall,hco,hfin⟩ | ⟨ho,hco,hc⟩
  · obtain ⟨_,_,rest,hr⟩ := finishActivity_iterations hd hget hex hs.finish_withMultiInstance hall hfin
    refine .inl ⟨?_,_,rest,hr⟩
    cases early with
    | false => exact .inl (hall rfl)
    | true => exact .inr (hco rfl)
  · refine .inr ⟨?_,?_⟩
    · rintro (hall | ht)
      · exact ho hall
      · rw [hco] at ht
        cases ht
    · simp only [continueActivity, bind_eq_ok, okOr_eq_ok] at hc
      obtain ⟨_,_,hc⟩ := hc
      split at hc
      · simp only [bind_eq_ok, pure_eq_ok, Prod.mk.injEq] at hc
        obtain ⟨_,_,rfl,_⟩ := hc
        simp [DomainEvent.bounds]
      · cases hc
        simp

/-- In every reachable state each multi-instance activity has its slots filled; over the whole run each
activation starts its indices in order and completes each at most once; and an activity ends exactly when the
completion of an iteration leaves all completed or makes the condition hold, reporting what still ran. -/
theorem multiInstance_exactly_once (hd : d.Accepted) (h : History d s batches) :
    (∀ (n : NodeId) a, s.activeMultiInstances[n]? = some a → SlotsFilled a) ∧
      (∀ n taskType mode total parallelism itemVariable items t before events after, batches.flatten = before ++
          .multiInstanceStarted n taskType mode total parallelism itemVariable items t :: (events ++ after) →
        (∀ e ∈ events, e.bounds n = false) → ActivationOnce n total events after.head?) ∧
      (∀ context n i t events, decideEvents d s (.completeMultiInstanceIteration n i t) context = .ok events →
        ∃ a spec later, s.activeMultiInstances[n]? = some a ∧ i ∈ a.activeIterations ∧
          d.multiInstance n = some spec ∧ events = .multiInstanceIterationCompleted n i t :: later ∧
          (ActivityEnds s context n spec (a.retire i) ∧ (∃ conditionSatisfied rest,
              later = .multiInstanceCompleted n conditionSatisfied (a.retire i).activeIterations.toList t :: rest) ∨
            ¬ActivityEnds s context n spec (a.retire i) ∧ ∀ e ∈ later, e.bounds n = false)) ∧
      (∀ command context events n cancelled t, decideEvents d s command context = .ok events →
        .multiInstanceCompleted n true cancelled t ∈ events →
        ∃ i, command = .completeMultiInstanceIteration n i t) := by
  refine ⟨(h.iterations hd).1,?_,?_,?_⟩
  · intro n taskType mode total parallelism itemVariable items t before events after hrun hb
    exact h.activationOnce hd hrun hb
  · intro context n i t events hdec
    obtain ⟨r,hr⟩ := decideEvents_eq_ok.mp hdec
    exact completeMultiInstanceIteration_ends hd (h.iterations hd).1 (handler_of_decideRouting hr)
  · intro command context events n cancelled t hdec hin
    -- only the completion of an iteration can end an activity early
    cases decideEvents_emits hdec _ hin with
    | plain hp => cases hp
    | ended hcm => exact ⟨_,hcm⟩

end Activation

namespace Sample

def surveyInput : DefinitionInput := {
  process (.lit "survey") [(.lit "start", .start (.lit "ask")), (.lit "ask", .serviceTask (.lit "answer") (.lit "end")),
    (.lit "end", .finish)] with
  contracts := { nodeMetadata := [(.lit "ask", { multiInstance := some {
    mode := .parallel
    collectionExpression := none
    itemVariable := none
    cardinalityExpression := some "3"
    maxParallelism := some 2
    completionCondition :=
      some (.comparison ⟨"nrOfCompletedInstances", .greaterThanOrEqual, .integer 2⟩) } })] } }

def survey : WorkflowDefinition := build surveyInput (by decide)

end Sample

open Sample

theorem multiInstance_exactly_once_survey : ∃ s first second, History survey s [first, second] ∧
      (∃ a : ActiveMultiInstance, s.activeMultiInstances[(.lit "ask" : NodeId)]? = some a ∧
        a.activeIterations.toList = [0, 2] ∧ a.completedIterations.toList = [1] ∧ SlotsFilled a) ∧
      ActivationOnce (.lit "ask") 3 [.multiInstanceIterationActivated (.lit "ask") (.lit "answer") 0 none 5,
        .multiInstanceIterationActivated (.lit "ask") (.lit "answer") 1 none 5,
        .multiInstanceIterationCompleted (.lit "ask") 1 7,
        .multiInstanceIterationActivated (.lit "ask") (.lit "answer") 2 none 7] none := by
  have hs : decideEvents survey {} (.startWorkflow (.lit "tenant-a") 5) context =
      .ok [.workflowStarted (.lit "tenant-a") (.lit "survey") (.lit "1") (.lit "start") 5,
        .multiInstanceStarted (.lit "ask") (.lit "answer") .parallel 3 2 none [] 5,
        .multiInstanceIterationActivated (.lit "ask") (.lit "answer") 0 none 5,
        .multiInstanceIterationActivated (.lit "ask") (.lit "answer") 1 none 5] := by rfl
  have hd : decideEvents survey (([.workflowStarted (.lit "tenant-a") (.lit "survey") (.lit "1") (.lit "start") 5,
        .multiInstanceStarted (.lit "ask") (.lit "answer") .parallel 3 2 none [] 5,
        .multiInstanceIterationActivated (.lit "ask") (.lit "answer") 0 none 5,
        .multiInstanceIterationActivated (.lit "ask") (.lit "answer") 1 none 5] : List DomainEvent).foldl evolve {})
      (.completeMultiInstanceIteration (.lit "ask") 1 7) context =
      .ok [.multiInstanceIterationCompleted (.lit "ask") 1 7,
        .multiInstanceIterationActivated (.lit "ask") (.lit "answer") 2 none 7] := by rfl
  have hrun := (History.initial.step hs).step hd
  obtain ⟨hf,ho,_⟩ := multiInstance_exactly_once (build_accepted surveyInput (by decide)) hrun
  refine ⟨_,_,_,hrun,⟨_,rfl,by decide,by decide,hf (.lit "ask") _ rfl⟩,?_⟩
  exact ho _ _ _ 3 _ _ _ _ [.workflowStarted (.lit "tenant-a") (.lit "survey") (.lit "1") (.lit "start") 5] _ [] rfl
    (by decide)

end BpmpPlatform
