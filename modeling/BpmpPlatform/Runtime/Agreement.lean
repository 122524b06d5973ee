import BpmpPlatform.Runtime.CaseEvents

/-! # Decisions and events agree

Folding the events of a decision gives exactly the routing state the decision computed, in every
reachable state.
-/
namespace BpmpPlatform
open Std Outcome

/-- The states reached from the default state by the events of successful decisions, in any order and
under any configuration and variables. -/
inductive Reachable (d : WorkflowDefinition) : InstanceState → Prop
  | initial : Reachable d {}
  | step {s command context events} (hs : Reachable d s)
      (h : decideEvents d s command context = .ok events) : Reachable d (events.foldl evolve s)

/-- Runs from a state by successful decisions whose commands and contexts all satisfy a condition. -/
inductive RunsWhile (d : WorkflowDefinition) (allowed : Command → DecisionContext → Prop)
    (s : InstanceState) : InstanceState → Prop
  | refl : RunsWhile d allowed s s
  | step {t command context events} (h : RunsWhile d allowed s t) (ha : allowed command context)
      (hd : decideEvents d t command context = .ok events) :
      RunsWhile d allowed s (events.foldl evolve t)

variable {s : InstanceState} {d : WorkflowDefinition} {tokens : ExtTreeMap NodeId Nat} {nodeId : NodeId}

theorem RunsWhile.reachable {allowed : Command → DecisionContext → Prop} (h : RunsWhile d allowed {} s) :
    Reachable d s := by
  induction h with
  | refl => exact .initial
  | step _ _ hd ih => exact .step ih hd

def TokensPositive (r : RoutingState) : Prop := ∀ nodeId : NodeId, r.activeTokens[nodeId]? ≠ some 0

theorem saturatingSucc_ne_zero (n : Nat) : saturatingSucc u32Max n ≠ 0 := by
  unfold saturatingSucc
  split
  · omega
  · have : 0 < u32Max := by decide
    omega

theorem insert_positive (h : ∀ n : NodeId, tokens[n]? ≠ some 0) {count : Nat} (hc : count ≠ 0) (n : NodeId) :
    (tokens.insert nodeId count)[n]? ≠ some 0 := by
  rw [getElem?_insert_eq]
  split
  · simpa using hc
  · exact h n

theorem releaseTokens_positive (h : ∀ n : NodeId, tokens[n]? ≠ some 0) (nodeId : NodeId) (released : Nat)
    (n : NodeId) : (releaseTokens tokens nodeId released)[n]? ≠ some 0 := by
  unfold releaseTokens
  split
  · exact h n
  · split
    · rw [getElem?_erase_eq]
      split
      · simp
      · exact h n
    · rename_i hne
      exact insert_positive h hne n

theorem routeEvent_tokensPositive {r : RoutingState} (h : TokensPositive r) (e : DomainEvent) :
    TokensPositive (routeEvent r e) := by
  intro n
  cases e with
  | serviceTaskActivated | userTaskActivated => exact insert_positive h (saturatingSucc_ne_zero _) n
  | scriptTaskActivated => exact insert_positive h (saturatingSucc_ne_zero _) n
  | serviceTaskCompleted nodeId | userTaskCompleted nodeId => exact releaseTokens_positive h nodeId 1 n
  | scriptTaskCompleted nodeId => exact releaseTokens_positive h nodeId 1 n
  | boundaryEventTriggered _ owner _ cancelActivity _ released =>
    cases cancelActivity with
    | true => exact releaseTokens_positive h owner released n
    | false => exact h n
  | workflowCompleted | workflowTerminatedForCompliance => simp [routeEvent, applyEvent, InstanceState.routing]
  | _ => exact h n

theorem foldl_evolve_tokensPositive (events : List DomainEvent)
    (h : TokensPositive s.routing) : TokensPositive (events.foldl evolve s).routing := by
  induction events generalizing s with
  | nil => exact h
  | cons e events ih =>
    refine ih (s := evolve s e) ?_
    rw [evolve_routing]
    exact routeEvent_tokensPositive h e

theorem Reachable.tokensPositive (h : Reachable d s) : TokensPositive s.routing := by
  induction h with
  | initial => intro n; simp [InstanceState.routing]
  | step _ _ ih => exact foldl_evolve_tokensPositive _ ih

section Agreement
variable {d : WorkflowDefinition} {s : InstanceState} {context : DecisionContext}
  {events : List DomainEvent} {r : RoutingState} {command : Command}

variable {occurredAt : Nat} {owner : NodeId}

theorem IterationOutcome.tracks {next : NodeId} {r₁ : RoutingState}
    (h : IterationOutcome d s context nodeId next occurredAt r₁ events r) : Tracks events r₁ r := by
  cases h with
  | finished hs hr => exact Tracks.cons rfl ((disarmBoundaryEvents_tracks _ _ _).append hr.tracks)
  | advanced ha => exact Tracks.single (activateNextMultiInstance_tracks ha)
  | waiting => exact Tracks.nil _

/-- Whether or not a token was there to take, the tokens left are those after releasing one. -/
theorem releaseTokens_cancelled (hpos : TokensPositive s.routing) (n : NodeId) :
    releaseTokens s.activeTokens n (cancelledTaskTokens s true n) = releaseTokens s.activeTokens n 1 := by
  cases hc : s.activeTokens[n]? with
  | none => simp only [releaseTokens, hc]
  | some count =>
    have hne : count ≠ 0 := fun h0 => hpos n (h0 ▸ hc)
    simp [cancelledTaskTokens, hc, hne]

/-- An interrupted activity loses its iterations, its boundary events and one token if it has one. -/
theorem interruptActivity_routing (hpos : TokensPositive s.routing) {n : NodeId} (hr : interruptActivity s true n = .ok r) :
    r = RoutingState.disarmBoundaries { s.routing with
      activeMultiInstances := s.activeMultiInstances.erase n
      activeTokens := releaseTokens s.activeTokens n 1 } n := by
  simp only [interruptActivity, ↓reduceIte, RoutingState.cancelActivity, cancelledTaskTokens, Bool.true_and] at hr
  cases hc : s.activeTokens[n]? with
  | none =>
    rw [hc] at hr
    cases hr
    simp only [disarmBoundaries_eq, releaseTokens, hc]
    rfl
  | some count =>
    have hne : count ≠ 0 := fun h0 => hpos n (h0 ▸ hc)
    simp only [hc, Option.getD_some, bne_iff_ne, ne_eq, hne, not_false_eq_true, ↓reduceIte, completeTasks_one] at hr
    obtain ⟨_,_,rfl⟩ := completeTask_eq_ok.mp hr
    simp only [disarmBoundaries_eq]
    rfl

theorem interruptActivity_tracks {boundaryId target : NodeId} {iterations : List Nat} {cancelActivity : Bool}
    (hpos : TokensPositive s.routing) (h : interruptActivity s cancelActivity owner = .ok r) :
    routeEvent s.routing (.boundaryEventTriggered boundaryId owner target cancelActivity iterations
      (cancelledTaskTokens s cancelActivity owner) occurredAt) = r := by
  cases cancelActivity with
  | true =>
    rw [interruptActivity_routing hpos h, ← releaseTokens_cancelled hpos, disarmBoundaries_eq]
    rfl
  | false => cases h; rfl

theorem tracks_cancelled {cancelled : List DomainEvent}
    (h : cancelled = [] ∨ ∃ reason, cancelled = [.userTaskCancelled owner reason occurredAt]) (r : RoutingState) :
    Tracks cancelled r r := by
  rcases h with rfl | ⟨reason,rfl⟩
  · exact Tracks.nil r
  · exact Tracks.single rfl

theorem Decides.tracks (hpos : TokensPositive s.routing) (h : Decides d s context command events r) :
    Tracks events s.routing r := by
  cases h with
  | activateCase h => exact tracks_of_isCase (activateCase_isCase h) _
  | evaluateCaseSentries h => exact tracks_of_isCase (evaluateCaseSentries_isCase h) _
  | start hl hn hr => exact Tracks.cons rfl hr.tracks
  | task hl hn hact he hc hs hr =>
    exact Tracks.cons (completeTask_tracks he hc) ((disarmBoundaryEvents_tracks _ _ _).append hr.tracks)
  | iteration hl hn hact hmi hc ho =>
    exact Tracks.cons (completeMultiInstanceIteration_tracks hc) ho.tracks
  | trigger hl hsub hb hm ho hi hu hr₁ hs hr =>
    exact Tracks.cons (interruptActivity_tracks hpos hr₁) ((tracks_cancelled hu _).append hr.tracks)

/-- The routing state after the events is the one the decision computed. -/
theorem decideRouting_agrees (hs : Reachable d s)
    (h : decideRouting d s command context = .ok (events, r)) : (events.foldl evolve s).routing = r := by
  have htr := (decideRouting_decides h).tracks hs.tokensPositive
  have hf := foldl_evolve_routing events s
  exact hf.symm.trans htr

theorem decideRouting_case (hc : command.isCase = true)
    (h : decideRouting d s command context = .ok (events, r)) : r = s.routing := by
  cases decideRouting_decides h with
  | activateCase | evaluateCaseSentries => rfl
  | start => cases hc
  | task hl hn hact he => cases he <;> cases hc
  | iteration | trigger => cases hc

/-- In every reachable state a decision's events rebuild the six maps of the routing state the decision
computed, and the case commands change none of them. No condition on the definition is needed. -/
theorem rehydrated_routing_eq_decided (hs : Reachable d s) (h : decideEvents d s command context = .ok events) :
    ∃ r, decideRouting d s command context = .ok (events, r) ∧ (events.foldl evolve s).routing = r ∧
      (command.isCase = true → (events.foldl evolve s).routing = s.routing) := by
  obtain ⟨r,hr⟩ := decideEvents_eq_ok.mp h
  have ha := decideRouting_agrees hs hr
  exact ⟨r,hr,ha,fun hc => ha.trans (decideRouting_case hc hr)⟩

end Agreement

namespace Sample

def process (workflowType : WorkflowType) (nodes : List (NodeId × Node)) : DefinitionInput where
  tenantId := .lit "tenant-a"
  workflowType
  workflowVersion := .lit "1"
  startNode := .lit "start"
  nodes
  decisionTables := []
  contracts := {}

def reviewInput : DefinitionInput := process (.lit "review")
  [(.lit "start", .start (.lit "review")), (.lit "review", .serviceTask (.lit "check") (.lit "end")),
    (.lit "end", .finish)]

def build (input : DefinitionInput)
    (h : (WorkflowDefinition.newWithExecutionContracts .insertion input).isOk = true) : WorkflowDefinition :=
  match hd : WorkflowDefinition.newWithExecutionContracts .insertion input with
  | .ok d => d
  | .error _ => absurd h (by simp [hd, Except.isOk, Except.toBool])

theorem build_accepted (input : DefinitionInput)
    (h : (WorkflowDefinition.newWithExecutionContracts .insertion input).isOk = true) : (build input h).Accepted := by
  refine ⟨.insertion,input,?_⟩
  unfold build
  split
  · assumption
  · rename_i hd
    simp [hd, Except.isOk, Except.toBool] at h

def review : WorkflowDefinition := build reviewInput (by decide)

def context : DecisionContext where
  engine := policy 100 (by decide)
  vars := ∅

end Sample

open Sample

theorem rehydrated_routing_eq_decided_review :
    ∃ r, decideRouting review {} (.startWorkflow (.lit "tenant-a") 5) context =
      .ok ([.workflowStarted (.lit "tenant-a") (.lit "review") (.lit "1") (.lit "start") 5,
        .serviceTaskActivated (.lit "review") (.lit "check") 5], r) ∧
      r.activeTokens.toList = [(.lit "review", 1)] := by
  have h : decideEvents review {} (.startWorkflow (.lit "tenant-a") 5) context =
      .ok [.workflowStarted (.lit "tenant-a") (.lit "review") (.lit "1") (.lit "start") 5,
        .serviceTaskActivated (.lit "review") (.lit "check") 5] := by rfl
  obtain ⟨r,hr,ha,_⟩ := rehydrated_routing_eq_decided .initial h
  exact ⟨r,hr,by rw [← ha]; rfl⟩

end BpmpPlatform
