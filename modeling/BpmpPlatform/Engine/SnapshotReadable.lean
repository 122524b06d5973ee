import BpmpPlatform.Engine.Application
import BpmpPlatform.Engine.SnapshotRoundTrip
import BpmpPlatform.Runtime.Emissions
import BpmpPlatform.Runtime.RoutingData
import BpmpPlatform.Runtime.StorableRuns

/-! # Persisted snapshots can be read back

A snapshot cut from an instance is read back exactly when the event it is cut after is not a closing one.
-/
namespace BpmpPlatform
open Std Outcome List

def Command.assigned : Command → List String
  | .completeServiceTask _ outputs _ => outputs.keys
  | _ => []

def VarsNamed (vars : Variables) : Prop :=
  ∀ name value, vars[name]? = some value → Text.isBlank name = false

def EventsNamed (events : List DomainEvent) : Prop := ∀ e ∈ events, AllNamed (e.assignments.map Prod.fst)

section Variables
variable {vars : Variables} {s : InstanceState} {events : List DomainEvent}

theorem VarsNamed.insertMany {given : List (String × WorkflowValue)} (h : VarsNamed vars)
    (hg : AllNamed (given.map Prod.fst)) : VarsNamed (vars.insertMany given) := by
  induction given generalizing vars with
  | nil => rwa [ExtTreeMap.insertMany_nil]
  | cons p given ih =>
    obtain ⟨hp,hg⟩ := forall_mem_cons.mp hg
    rw [ExtTreeMap.insertMany_cons]
    refine ih (fun k v hk => ?_) hg
    rcases of_getElem?_insert hk with ⟨rfl,-⟩ | hk
    · exact hp
    · exact h k v hk

theorem foldl_evolve_varsNamed (h : VarsNamed s.vars) (he : EventsNamed events) :
    VarsNamed (events.foldl evolve s).vars := by
  induction events generalizing s with
  | nil => exact h
  | cons e events ih =>
    obtain ⟨he,hes⟩ := forall_mem_cons.mp he
    exact ih (evolve_vars ▸ h.insertMany he) hes

end Variables

variable {command : Command}

/-- What the events of a decision assign is named by the command or by the definition. -/
theorem decideEvents_eventsNamed {d : WorkflowDefinition} {s : InstanceState} {context : DecisionContext}
    {events : List DomainEvent} (hd : d.Accepted) (htexts : TextsGiven d) (hc : AllNamed command.assigned)
    (h : decideEvents d s command context = .ok events) : EventsNamed events := by
  have hnil : AllNamed [] := nofun
  intro e he
  cases decideEvents_emits h e he with
  | plain hp =>
    cases e with
    | serviceTaskCompleted | decisionTaskEvaluated | userTaskCompleted => cases hp
    | _ => exact hnil
  | serviceCompleted hcm =>
    subst hcm
    rw [DomainEvent.assignments, ExtTreeMap.map_fst_toList_eq_keys]
    exact hc
  | userCompleted hn => exact forall_mem_singleton.mpr (htexts.resultVariables _ _ _ _ _ _ hn)
  | decision ht ho =>
    obtain ⟨us,hv⟩ := hd.validated
    rw [DomainEvent.assignments, ExtTreeMap.map_fst_toList_eq_keys]
    intro name hn
    obtain ⟨o,hout,rfl⟩ := mem_map.mp ((evaluateDecisionTable_keys (hv.tables _ _ ht).1 ho name).mp hn)
    exact htexts.outputs _ _ ht o hout
  | _ => exact hnil

/-- Runs from the default state in which task results come with names. -/
def NamedRun (d : WorkflowDefinition) (s : InstanceState) : Prop :=
  RunsWhile d (fun command _ => AllNamed command.assigned) {} s

def CutCloses (interval : Nat) (s : InstanceState) (envelopes : List EventEnvelope) : Prop :=
  ∃ before cut, CutsAt interval envelopes before cut ∧ Closing (evolveAll s before).routing cut.event

section Snapshots
variable {d : WorkflowDefinition} {s : InstanceState} {events : List DomainEvent}

theorem NamedRun.varsNamed (hd : d.Accepted) (htexts : TextsGiven d) (h : NamedRun d s) : VarsNamed s.vars := by
  induction h with
  | refl => intro name value hv; simp at hv
  | step _ hc hdec ih => exact foldl_evolve_varsNamed ih (decideEvents_eventsNamed hd htexts hc hdec)

/-- After any event of a decision, the state can be stored exactly when the event is not a closing one. -/
theorem storable_evolveAll_iff (hd : d.Accepted) (htexts : TextsGiven d) (hs : Reachable d s)
    {context : DecisionContext} (hdec : decideEvents d s command context = .ok events)
    {before after : List EventEnvelope} {cut : EventEnvelope}
    (he : (before ++ cut :: after).map EventEnvelope.event = events) :
    Storable (evolveAll s (before ++ [cut])).routing ↔ ¬Closing (evolveAll s before).routing cut.event := by
  obtain ⟨r,hr⟩ := decideEvents_eq_ok.mp hdec
  have hc := (decideRouting_decides hr).cuts hd htexts (hs.storable hd htexts)
  have hrt : ∀ envelopes, (envelopes.map EventEnvelope.event).foldl routeEvent s.routing =
      (evolveAll s envelopes).routing := fun envelopes => foldl_evolve_routing _ s
  rw [map_append, map_cons] at he
  rw [← hrt, ← hrt, map_append]
  exact hc.storable_iff he.symm

/-- A snapshot the engine persists is read back unchanged exactly when it is not cut after the arrival of
the last token at a join or after the start of a multi-instance activity without instances. -/
theorem snapshot_readable_iff (format : MessageFormat Wire.WorkflowSnapshot) (hd : d.Accepted)
    (htexts : TextsGiven d) (hs : NamedRun d s) (request : AuthorizedCommand)
    (configuration : ResolvedConfigSnapshot) (hc : AllNamed request.command.assigned)
    (hdec : decideEvents d s request.command (configuration.context request) = .ok events) {actorId : ActorId}
    {version : Nat} {envelopes : List EventEnvelope}
    (henv : attachMetadata d request actorId configuration version events = .ok envelopes)
    {snapshot : SnapshotEnvelope}
    (hsnap : snapshotAtLatestBoundary d request configuration s envelopes = some snapshot) :
    SnapshotCodec.decode format (SnapshotCodec.encode format snapshot) = .ok snapshot ↔
      ¬CutCloses configuration.engine.snapshotIntervalEvents s envelopes := by
  have hes := (attachFrom_spec henv).1
  have hn := decideEvents_eventsNamed hd htexts hc hdec
  -- the property at any one cut, which `hsnap` identifies with the snapshot
  have hcut : ∀ before cut, CutsAt configuration.engine.snapshotIntervalEvents envelopes before cut →
      (SnapshotCodec.decode format (SnapshotCodec.encode format snapshot) = .ok snapshot ↔
        ¬Closing (evolveAll s before).routing cut.event) := by
    intro before cut hat
    rw [hat.snapshot_eq, Option.some.injEq] at hsnap
    subst hsnap
    obtain ⟨_,after,rfl,_⟩ := hat
    have hv : VarsNamed (evolveAll s (before ++ [cut])).vars := by
      refine foldl_evolve_varsNamed (hs.varsNamed hd htexts) fun e he => hn e ?_
      rw [← hes]
      simp only [map_append, map_cons, map_nil, mem_append, mem_cons, not_mem_nil,
        or_false] at he ⊢
      exact he.imp_right .inl
    rw [decode_encode_iff, ← storable_evolveAll_iff hd htexts hs.reachable hdec hes]
    exact and_iff_left hv
  constructor
  · rintro hok ⟨before,cut,hat,hcl⟩
    exact (hcut before cut hat).mp hok hcl
  · intro hnot
    obtain ⟨before,cut,hat⟩ := exists_cutsAt_of_snapshot hsnap
    exact (hcut before cut hat).mpr fun hcl => hnot ⟨before,cut,hat,hcl⟩

end Snapshots

namespace Sample

def forkInput : DefinitionInput := process (.lit "fork")
  [(.lit "start", .start (.lit "fork")),
    (.lit "fork", .parallelSplit [.lit "left", .lit "right"] (.lit "merge")),
    (.lit "left", .serviceTask (.lit "work") (.lit "merge")),
    (.lit "right", .serviceTask (.lit "work") (.lit "merge")),
    (.lit "merge", .parallelJoin (.lit "fork") (.lit "end")),
    (.lit "end", .finish)]

def fork : WorkflowDefinition := build forkInput (by decide)

def forkStart : List DomainEvent :=
  [.workflowStarted (.lit "tenant-a") (.lit "fork") (.lit "1") (.lit "start") 5,
    .gatewaySplitActivated (.lit "fork") (.lit "merge") [.lit "left", .lit "right"] 5,
    .serviceTaskActivated (.lit "left") (.lit "work") 5, .serviceTaskActivated (.lit "right") (.lit "work") 5]

def forkLeft : List DomainEvent :=
  [.serviceTaskCompleted (.lit "left") ∅ 6, .gatewayTokenArrived (.lit "merge") 6]

def forkRight : List DomainEvent :=
  [.serviceTaskCompleted (.lit "right") ∅ 7, .gatewayTokenArrived (.lit "merge") 7,
    .gatewayJoined (.lit "merge") 7, .workflowCompleted 7]

theorem forkStart_decided :
    decideEvents fork {} (.startWorkflow (.lit "tenant-a") 5) context = .ok forkStart := by rfl

theorem forkLeft_decided : decideEvents fork (forkStart.foldl evolve {})
    (.completeServiceTask (.lit "left") ∅ 6) context = .ok forkLeft := by rfl

theorem fork_textsGiven : TextsGiven fork := by
  refine ⟨?_,?_,?_,?_⟩
  · intro n spec name h
    cases h
  · intro n b hb
    cases hb
  · intro n taskType policy formKey resultVariable next h
    have hn : ∀ entry ∈ fork.nodes.toList, entry.2.isUserTask = false := by decide
    cases hn _ (ExtTreeMap.mem_toList_iff_getElem?_eq_some.mpr h)
  · intro id table h
    cases h

end Sample

open Sample

theorem snapshot_readable_iff_fork :
    ∃ envelopes snapshot, attachMetadata fork (request (.startWorkflow (.lit "tenant-a") 5)) actor
      everyFour 0 forkStart = .ok envelopes ∧
      snapshotAtLatestBoundary fork (request (.startWorkflow (.lit "tenant-a") 5)) everyFour {}
        envelopes = some snapshot ∧
      SnapshotCodec.decode (.plain _) (SnapshotCodec.encode (.plain _) snapshot) = .ok snapshot := by
  have hdec : decideEvents fork {} (.startWorkflow (.lit "tenant-a") 5)
      (everyFour.context (request (.startWorkflow (.lit "tenant-a") 5))) = .ok forkStart := by
    rfl
  obtain ⟨envelopes,snapshot,henv,hs⟩ : ∃ envelopes snapshot,
      attachMetadata fork (request (.startWorkflow (.lit "tenant-a") 5)) actor everyFour 0
        forkStart = .ok envelopes ∧ snapshotAtLatestBoundary fork (request (.startWorkflow (.lit "tenant-a") 5)) everyFour {} envelopes = some snapshot :=
    ⟨_,_,rfl,rfl⟩
  refine ⟨envelopes,snapshot,henv,hs,(snapshot_readable_iff _ (build_accepted _ _) fork_textsGiven
    .refl (request (.startWorkflow (.lit "tenant-a") 5)) _ (forall_mem_nil _) hdec henv hs).mpr ?_⟩
  rintro ⟨before,cut,⟨hb,after,heq,_⟩,hc⟩
  have hcut : ∀ e ∈ (attachMetadata fork (request (.startWorkflow (.lit "tenant-a") 5)) actor
      everyFour 0 forkStart).toOption.getD [], e.sequence % 4 = 0 →
      e.event = .serviceTaskActivated (.lit "right") (.lit "work") 5 := by decide
  have hmem : cut ∈ (attachMetadata fork (request (.startWorkflow (.lit "tenant-a") 5)) actor
      everyFour 0 forkStart).toOption.getD [] := by
    rw [henv, heq]
    simp [Except.toOption]
  rw [hcut cut hmem hb] at hc
  exact hc

/-- The eighth event of this run is the arrival that fills the join. The snapshot cut after it is refused. -/
theorem snapshot_unreadable_at_full_join :
    fork.Accepted ∧ Reachable fork ((forkStart ++ forkLeft).foldl evolve {}) ∧
    decideEvents fork ((forkStart ++ forkLeft).foldl evolve {})
      (.completeServiceTask (.lit "right") ∅ 7)
      (everyEight.context (request (.completeServiceTask (.lit "right") ∅ 7))) = .ok forkRight ∧
    ∃ envelopes snapshot, attachMetadata fork (request (.completeServiceTask (.lit "right") ∅ 7))
        actor everyEight 6 forkRight = .ok envelopes ∧
      snapshotAtLatestBoundary fork (request (.completeServiceTask (.lit "right") ∅ 7))
        everyEight ((forkStart ++ forkLeft).foldl evolve {}) envelopes = some snapshot ∧
      SnapshotCodec.decode (.plain _) (SnapshotCodec.encode (.plain _) snapshot) = .error .invalidTokenState := by
  refine ⟨build_accepted _ _,?_,by rfl,_,_,rfl,rfl,by rfl⟩
  rw [foldl_append]
  exact .step (.step .initial forkStart_decided) forkLeft_decided

end BpmpPlatform
