import BpmpPlatform.Runtime.Completion

/-! # Completion over whole runs

A run completes at most once, as the last event of a decision and with nothing left to do, and a state
that is still active always has something left to do.
-/
namespace BpmpPlatform
open List
open Std Outcome DomainEvent Sample

inductive History (d : WorkflowDefinition) : InstanceState → List (List DomainEvent) → Prop
  | initial : History d {} []
  | step {s batches command context events} (hs : History d s batches)
      (h : decideEvents d s command context = .ok events) :
      History d (events.foldl evolve s) (batches ++ [events])

theorem History.reachable {d : WorkflowDefinition} {s : InstanceState} {batches : List (List DomainEvent)}
    (h : History d s batches) : Reachable d s := by
  induction h with
  | initial => exact .initial
  | step _ h ih => exact .step ih h

variable {d : WorkflowDefinition} {s : InstanceState} {context : DecisionContext} {events : List DomainEvent}
  {command : Command}

section Decisions
variable {r : RoutingState}

variable {r₁ : RoutingState} {occurredAt : Nat} {nodeId : NodeId}

theorem balanced_single {entry : NodeId × Option ScopeInstanceId} {vars : Variables} :
    Balanced ⟨[entry], vars, r₁⟩ := by
  rw [Balanced, length_singleton]
  omega

theorem disarm_pendingJoins :
    (disarmBoundaryEvents nodeId occurredAt r₁).2.pendingJoins = r₁.pendingJoins := rfl

theorem interruptActivity_pendingJoins {cancelActivity : Bool} {owner : NodeId} (hpos : TokensPositive s.routing)
    (h : interruptActivity s cancelActivity owner = .ok r₁) : r₁.pendingJoins = s.pendingGatewayJoins := by
  cases cancelActivity with
  | true => rw [interruptActivity_routing hpos h]; rfl
  | false => cases h; rfl

theorem IterationOutcome.completion {next : NodeId} (hd : d.Accepted) (hj : JoinsOpen r₁)
    (h : IterationOutcome d s context nodeId next occurredAt r₁ events r) :
    RunCompletion r₁ events r ∧ JoinsOpen r := by
  cases h with
  | finished hs hr =>
    have hj' : JoinsOpen (disarmBoundaryEvents nodeId occurredAt (r₁.finishMultiInstance nodeId)).2 :=
      hj.of_eq rfl
    refine ⟨?_,hr.joinsOpen hd hj' balanced_single⟩
    have hrun := hr.completion hd hj' balanced_single (by simp)
    exact hrun.disarm.cons rfl rfl
  | advanced ha =>
    obtain ⟨active,_,_,_,_,rfl,_⟩ := activateNextMultiInstance_eq_ok.mp ha
    refine ⟨.continues (by simp [isWorkflowCompleted]) ?_,hj.of_eq rfl⟩
    have hin (a : ActiveMultiInstance) : (r₁.activeMultiInstances.insert nodeId a)[nodeId]? ≠ none := by simp
    exact outstanding_of_multiInstance (hin _)
  | waiting ha =>
    exact ⟨.continues (by simp) (outstanding_of_multiInstance (by rw [ha]; simp)),hj⟩

/-- A decision other than a case command completes at its end or leaves something to do. -/
theorem Decides.completion (hd : d.Accepted) (hpos : TokensPositive s.routing) (hj : JoinsOpen s.routing)
    (hc : command.isCase = false) (h : Decides d s context command events r) :
    RunCompletion s.routing events r ∧ JoinsOpen r := by
  cases h with
  | activateCase | evaluateCaseSentries => cases hc
  | start hl hn hr =>
    exact ⟨(hr.completion hd hj balanced_single (by simp)).cons rfl rfl,hr.joinsOpen hd hj balanced_single⟩
  | @task _ nodeId node next completed occurredAt r₁ scope vars later r hl hn hact he hct hs hr =>
    obtain ⟨_,_,hr₁⟩ := completeTask_eq_ok.mp hct
    have hj' : JoinsOpen (disarmBoundaryEvents nodeId occurredAt r₁).2 := hj.of_eq (by rw [disarm_pendingJoins, hr₁])
    refine ⟨?_,hr.joinsOpen hd hj' balanced_single⟩
    exact (hr.completion hd hj' balanced_single (by simp)).disarm.cons (by cases he <;> rfl)
      (completeTask_tracks he hct)
  | iteration hl hn hact hmi hci ho =>
    obtain ⟨_,_,_,hr₁,_⟩ := completeMultiInstanceIteration_eq_ok.mp hci
    obtain ⟨hrun,hj'⟩ := ho.completion hd (hj.of_eq (by rw [hr₁]))
    exact ⟨hrun.cons rfl (completeMultiInstanceIteration_tracks hci),hj'⟩
  | trigger hl hsub hb hm ho hi hu hr₁ hs hr =>
    have hj' := hj.of_eq (interruptActivity_pendingJoins hpos hr₁)
    have hrun := hr.completion hd hj' balanced_single (by simp)
    refine ⟨?_,hr.joinsOpen hd hj' balanced_single⟩
    refine RunCompletion.cons (hrun.prepend ?_ (tracks_cancelled hu _)) rfl (interruptActivity_tracks hpos hr₁)
    rcases hu with rfl | ⟨reason,rfl⟩
    · simp
    · simp [isWorkflowCompleted]

theorem Reachable.joinsOpen (hd : d.Accepted) (h : Reachable d s) : JoinsOpen s.routing := by
  induction h with
  | initial => intro n join hn; simp [InstanceState.routing] at hn
  | @step s command context events hs h ih =>
    obtain ⟨r,hr⟩ := decideEvents_eq_ok.mp h
    rw [decideRouting_agrees hs hr]
    cases hc : command.isCase with
    | true => rw [decideRouting_case hc hr]; exact ih
    | false => exact ((decideRouting_decides hr).completion hd hs.tokensPositive ih hc).2

theorem pending_joins_open (d : { d : WorkflowDefinition // d.Accepted }) (s : { s // Reachable d.1 s }) :
    JoinsOpen s.1.routing :=
  s.2.joinsOpen d.2

/-- The lifecycle in which a command other than a case command succeeds. -/
theorem Decides.lifecycle_ne_completed (hc : command.isCase = false)
    (h : Decides d s context command events r) : s.lifecycle ≠ .completed := by
  have ha : ∀ l : Lifecycle, l.isActive = true → l ≠ .completed := by
    rintro l h rfl; cases h
  cases h with
  | activateCase | evaluateCaseSentries => cases hc
  | start hl => rw [hl]; simp
  | task hl | iteration hl | trigger hl => exact ha _ hl

theorem Decides.isCase_events (hc : command.isCase = true) (h : Decides d s context command events r) :
    ∀ e ∈ events, e.isCase = true := by
  cases h with
  | activateCase h => exact activateCase_isCase h
  | evaluateCaseSentries h => exact evaluateCaseSentries_isCase h
  | task hl hn hact he => cases he <;> cases hc
  | _ => cases hc

end Decisions

section Runs
variable {batches : List (List DomainEvent)}

theorem not_completed_of_isCase (h : ∀ e ∈ events, e.isCase = true) :
    ∀ e ∈ events, e.isWorkflowCompleted = false := by
  intro e he
  have := h e he
  cases e <;> first | rfl | cases this

theorem countP_completed_eq_zero (h : ∀ e ∈ events, e.isWorkflowCompleted = false) :
    events.countP isWorkflowCompleted = 0 := by
  rw [countP_eq_zero]
  intro e he
  simp [h e he]

/-- The completion of a decision is its last event and comes when nothing is left. -/
theorem completed_last (hd : d.Accepted) (hs : Reachable d s)
    (h : decideEvents d s command context = .ok events) {before after : List DomainEvent} {t : Nat}
    (he : events = before ++ .workflowCompleted t :: after) :
    after = [] ∧ (before.foldl evolve s).routing.hasOutstandingWork = false := by
  obtain ⟨r,hr⟩ := decideEvents_eq_ok.mp h
  have hmem : workflowCompleted t ∈ events := by rw [he]; simp
  have hab (hall : ∀ e ∈ events, e.isWorkflowCompleted = false) : False := by
    cases hall _ hmem
  cases hc : command.isCase with
  | true => exact (hab (not_completed_of_isCase ((decideRouting_decides hr).isCase_events hc))).elim
  | false =>
    obtain ⟨hrun,_⟩ := (decideRouting_decides hr).completion hd hs.tokensPositive (hs.joinsOpen hd) hc
    cases hrun with
    | continues hn => exact (hab hn).elim
    | @completes before' _ t' hn ht hw =>
      -- both splits cut the events at their only completion
      have hnot : workflowCompleted t ∉ before' := fun hin => by cases hn _ hin
      obtain ⟨rfl,_,rfl⟩ := (append_cons_inj_of_notMem hnot not_mem_nil).mp he
      refine ⟨rfl,?_⟩
      have hf : (before'.foldl evolve s).routing = r := (foldl_evolve_routing before' s).symm.trans ht
      rw [hf]
      exact hw

structure CompletionInvariant (s : InstanceState) (batches : List (List DomainEvent)) : Prop where
  atMostOnce : batches.flatten.countP DomainEvent.isWorkflowCompleted ≤ 1
  notYet : s.lifecycle ≠ .completed → batches.flatten.countP DomainEvent.isWorkflowCompleted = 0
  outstanding : s.lifecycle.isActive = true → s.routing.hasOutstandingWork = true

theorem History.completionInvariant (hd : d.Accepted) (h : History d s batches) : CompletionInvariant s batches := by
  induction h with
  | initial => exact ⟨by simp,by simp,by simp [Lifecycle.isActive]⟩
  | @step s batches command context events hs h ih =>
    have hre := hs.reachable
    obtain ⟨r,hr⟩ := decideEvents_eq_ok.mp h
    have hag := decideRouting_agrees hre hr
    have hdec := decideRouting_decides hr
    have hcnt : (batches ++ [events]).flatten.countP isWorkflowCompleted =
        batches.flatten.countP isWorkflowCompleted +
          events.countP isWorkflowCompleted := by
      simp [countP_append]
    cases hc : command.isCase with
    | true =>
      -- a case command changes neither the lifecycle nor the routing state
      have hca := hdec.isCase_events hc
      have hz := countP_completed_eq_zero (not_completed_of_isCase hca)
      have hl := foldl_evolve_lifecycle_of_isCase hca s
      have hro := hag.trans (decideRouting_case hc hr)
      refine ⟨?_,?_,?_⟩
      · rw [hcnt, hz]; exact ih.atMostOnce
      · rw [hl, hcnt, hz]; exact ih.notYet
      · rw [hl, hro]; exact ih.outstanding
    | false =>
      have hb := ih.notYet (hdec.lifecycle_ne_completed hc)
      obtain ⟨hrun,_⟩ := hdec.completion hd hre.tokensPositive (hre.joinsOpen hd) hc
      cases hrun with
      | continues hn hw =>
        have hz := countP_completed_eq_zero hn
        refine ⟨?_,?_,?_⟩
        · rw [hcnt, hz, hb]; omega
        · intro _; rw [hcnt, hz, hb]
        · intro _; rw [hag]; exact hw
      | @completes before _ t hn _ _ =>
        have hone : (before ++ [workflowCompleted t]).countP isWorkflowCompleted = 1 := by
          rw [countP_append, countP_completed_eq_zero hn]
          rfl
        have hl : ((before ++ [workflowCompleted t]).foldl evolve s).lifecycle = .completed := by
          rw [foldl_append]
          rfl
        refine ⟨?_,?_,?_⟩
        · rw [hcnt, hone, hb]
        · intro hne; exact absurd hl hne
        · intro ha; rw [hl] at ha; cases ha

/-- Over every run of an accepted definition, completion happens at most once; in every decision of the
run it is the last event, comes when none of the five maps has an entry, and so clears nothing; and a
state that is still active has an entry in one of the five maps. -/
theorem workflowCompleted_sound (hd : d.Accepted) (h : History d s batches) :
    batches.flatten.countP DomainEvent.isWorkflowCompleted ≤ 1 ∧
    (∀ command context events, decideEvents d s command context = .ok events →
      ∀ before after t, events = before ++ .workflowCompleted t :: after →
        after = [] ∧ (before.foldl evolve s).routing.hasOutstandingWork = false ∧
        (evolve (before.foldl evolve s) (.workflowCompleted t)).routing = (before.foldl evolve s).routing) ∧
    (s.lifecycle.isActive = true → s.routing.hasOutstandingWork = true) := by
  have hinv := h.completionInvariant hd
  refine ⟨hinv.atMostOnce,?_,hinv.outstanding⟩
  intro command context events hdec before after t he
  obtain ⟨ha,hw⟩ := completed_last hd h.reachable hdec he
  refine ⟨ha,hw,?_⟩
  obtain ⟨h₁,h₂,h₃,h₄,h₅⟩ := hasOutstandingWork_eq_false_iff.mp hw
  rw [evolve_routing]
  simp only [routeEvent, applyEvent, RoutingState.toState]
  rw [← h₁, ← h₂, ← h₃, ← h₄, ← h₅]
  rfl

end Runs

theorem workflowCompleted_sound_review : ∃ s batches, History review s batches ∧ s.lifecycle = .completed ∧
      batches.flatten.countP DomainEvent.isWorkflowCompleted ≤ 1 := by
  have hs : decideEvents review {} (.startWorkflow (.lit "tenant-a") 5) context =
      .ok [.workflowStarted (.lit "tenant-a") (.lit "review") (.lit "1") (.lit "start") 5,
        .serviceTaskActivated (.lit "review") (.lit "check") 5] := by rfl
  have hd : decideEvents review
      ([.workflowStarted (.lit "tenant-a") (.lit "review") (.lit "1") (.lit "start") 5,
        .serviceTaskActivated (.lit "review") (.lit "check") 5].foldl evolve {})
      (.completeServiceTask (.lit "review") ∅ 6) context =
      .ok [.serviceTaskCompleted (.lit "review") ∅ 6, .workflowCompleted 6] := by rfl
  have hrun := (History.initial.step hs).step hd
  exact ⟨_,_,hrun,rfl,(workflowCompleted_sound (build_accepted _ _) hrun).1⟩

end BpmpPlatform
