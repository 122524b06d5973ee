import BpmpPlatform.Engine.EventRoundTrip
import BpmpPlatform.Engine.WirLoader
import BpmpPlatform.Runtime.Emissions

/-! # Persisted events can be read back

Most of what an event carries is legible by construction. The rest are texts copied from the definition.
-/
namespace BpmpPlatform
open Std Outcome WorkflowDefinition

def Node.activationTexts : Node → List String
  | .userTask _ assignmentPolicyRef formKey _ _ => assignmentPolicyRef :: formKey.toList
  | .scriptTask _ implementationRef implementationVersion _ => [implementationRef, implementationVersion]
  | _ => []

def Node.completionTexts : Node → List String
  | .userTask _ _ _ resultVariable _ => [resultVariable]
  | _ => []

def BoundaryTrigger.texts : BoundaryTrigger → List String
  | .timer _ expression => [expression]
  | .error errorRef => errorRef.toList
  | .message messageRef => [messageRef]

/-- The texts of the definition that an event carries, found at the node, table or boundary event it names. -/
def WorkflowDefinition.eventTexts (d : WorkflowDefinition) : DomainEvent → List String
  | .userTaskActivated nodeId _ _ _ _ | .scriptTaskActivated nodeId _ _ _ _ =>
    (d.nodes[nodeId]?.map Node.activationTexts).getD []
  | .userTaskCompleted nodeId _ _ _ => (d.nodes[nodeId]?.map Node.completionTexts).getD []
  | .decisionTaskEvaluated _ decisionTableId _ _ =>
    (d.decisionTables[decisionTableId]?.map fun table => table.outputs.map DecisionOutput.name).getD []
  | .boundaryEventArmed boundaryEventId _ _ _ _ _ =>
    ((d.boundaryEvent boundaryEventId).map fun found => found.2.trigger.texts).getD []
  | .multiInstanceStarted nodeId _ _ _ _ _ _ _ =>
    ((d.multiInstance nodeId).bind MultiInstanceDefinition.itemVariable).toList
  | _ => []

structure Carried (d : WorkflowDefinition) (e : DomainEvent) : Prop where
  legible : Legible e ↔ AllNamed (d.eventTexts e)
  tenant : EventCodec.tenantAgrees d.tenantId e = true

/-- What the transport admits: results with names, and decisions that say something. -/
def Command.Admitted : Command → Prop
  | .completeServiceTask _ outputs _ => AllNamed outputs.keys
  | .completeUserTask _ decision _ => Text.isBlank decision = false
  | _ => True

theorem isNamed_iff {trigger : BoundaryTrigger} : trigger.isNamed = true ↔ AllNamed trigger.texts := by
  cases trigger <;> simp [BoundaryTrigger.isNamed, BoundaryTrigger.texts, AllNamed, Option.all_eq_true]

variable {d : WorkflowDefinition} {now : Nat} {events : List DomainEvent}

section Decisions
variable {e : DomainEvent}

theorem Carried.plain (h : Legible e) (htx : d.eventTexts e = []) (ht : EventCodec.tenantAgrees d.tenantId e = true) :
    Carried d e := by
  refine ⟨iff_of_true h ?_,ht⟩
  rw [htx]
  simp [AllNamed]

variable {s : InstanceState} {context : DecisionContext} {command : Command}

/-- Every event of an admitted command is legible exactly when the texts it takes from the definition are
given. -/
theorem decideEvents_carried (hd : d.Accepted) (hc : command.Admitted)
    (h : decideEvents d s command context = .ok events) : ∀ e ∈ events, Carried d e := by
  intro e he
  cases decideEvents_emits h e he with
  | plain hp =>
    cases e with
    | workflowStarted | serviceTaskCompleted | userTaskActivated | userTaskCompleted | userTaskCancelled
    | scriptTaskActivated | decisionTaskEvaluated | boundaryEventArmed | multiInstanceStarted | multiInstanceCompleted
    | scopeEntered | workflowTerminatedForCompliance => cases hp
    | _ => exact .plain trivial rfl rfl
  | started _ ht => exact .plain trivial rfl (beq_iff_eq.mpr ht)
  | userTask hn | scriptTask hn =>
    refine ⟨?_,rfl⟩
    simp only [Legible, eventTexts, hn, Option.map_some, Node.activationTexts, Option.getD_some]
  | serviceCompleted hcm =>
    subst hcm
    exact .plain hc rfl rfl
  | userCompleted hn hde =>
    refine ⟨?_,rfl⟩
    simp only [Legible, AllNamed, eventTexts, hn, Option.map_some, Node.completionTexts,
      Option.getD_some, List.mem_cons, forall_eq_or_imp, hde, true_and]
  | userCancelled hr => exact .plain (by simp [Legible, AllNamed, hr]) rfl rfl
  | decision ht ho =>
    refine ⟨?_,rfl⟩
    obtain ⟨us,hv⟩ := hd.validated
    obtain ⟨hva,rfl⟩ := hv.tables _ _ ht
    have hid := hva
    simp only [validateDecisionTable, bind_eq_ok, ensure_eq_ok, Bool.not_eq_true'] at hid
    simp only [Legible, AllNamed, eventTexts, ht, Option.map_some, Option.getD_some, List.mem_cons,
      forall_eq_or_imp, hid.choose_spec.1, true_and, evaluateDecisionTable_keys hva ho]
  | armed hb =>
    refine ⟨?_,rfl⟩
    simp only [armedEvent, Legible, eventTexts, hd.boundaryEvent_eq_some hb, Option.map_some,
      Option.getD_some, isNamed_iff]
  | @multiInstance _ _ engine _ total _ _ hs =>
    refine ⟨?_,rfl⟩
    have hne := Nat.ne_of_gt (effectiveParallelism_bounds hd hs engine total).1
    simp only [Legible, eventTexts, hs, Option.bind_some, hne, ne_eq, not_false_eq_true, true_and]
  | skipped | ended => exact .plain trivial rfl rfl
  | entered hi => exact .plain hi rfl rfl

end Decisions

section Persisted
variable {request : AuthorizedCommand} {actorId : ActorId} {configuration : ResolvedConfigSnapshot}
  {envelopes : List EventEnvelope}

/-- An event the engine emits for an admitted command is read back unchanged, in the current form and in
the one without a schema marker, exactly when the texts it takes from the definition are not blank. -/
theorem event_readable_iff (format : MessageFormat Wire.EventEnvelope) (hd : d.Accepted) {s : InstanceState}
    (htenant : request.tenantId = d.tenantId) (hc : request.command.Admitted) {events : List DomainEvent}
    (hdec : decideEvents d s request.command (configuration.context request) = .ok events) {version : Nat}
    (henv : attachMetadata d request actorId configuration version events = .ok envelopes) {e : EventEnvelope}
    (he : e ∈ envelopes) : (EventCodec.decode format (EventCodec.encode format e) = .ok e ∧
      EventCodec.decode format (EventCodec.encodeV0 format e) = .ok e) ↔ AllNamed (d.eventTexts e.event) := by
  obtain ⟨hes,_,hm⟩ := attachFrom_spec henv
  have hin : e.event ∈ events := hes ▸ List.mem_map_of_mem he
  have hm := hm e he
  obtain ⟨hl,ha⟩ := decideEvents_carried hd hc hdec e.event hin
  have hf : EventCodec.MetadataFits e := by
    refine ⟨by rw [hm]; rfl,by rw [hm]; rfl,?_⟩
    rw [hm, metadataOf, htenant]
    exact ha
  rw [EventCodec.decode_encode_iff format hf, EventCodec.decode_encodeV0_iff format hf, and_self, hl]

end Persisted

theorem mapDefinition_accepted {us : UnstableSort} {wir : Wir.WorkflowIntermediateRepresentation}
    {d : WorkflowDefinition} (h : WirLoader.mapDefinition us wir = .ok d) : d.Accepted := by
  obtain ⟨input,_,hnew⟩ := WirLoader.mapDefinition_eq_ok.mp h
  exact ⟨us,input,hnew⟩

namespace Sample

def cardWir (charge : Wir.Node) : Wir.WorkflowIntermediateRepresentation :=
  processWir "charge" "charge" [charge, plain "end" .finish]

def charging (trigger : Wir.EventTrigger) : Wir.Node :=
  { plain "charge" (.serviceTask "card" "end") with boundaryEvents := [⟨"failed", true, "end", some trigger⟩] }

def chargeWir (errorRef : String) : Wir.WorkflowIntermediateRepresentation := cardWir (charging (.error errorRef))

end Sample

open Sample

theorem event_readable_iff_charge :
    ∃ d events envelopes, WirLoader.mapDefinition .insertion (chargeWir "declined") = .ok d ∧
      decideEvents d {} start.command (everyEight.context start) = .ok events ∧
      attachMetadata d start actor everyEight 0 events = .ok envelopes ∧
      ∀ e ∈ envelopes, EventCodec.decode (.plain _) (EventCodec.encode (.plain _) e) = .ok e ∧
        EventCodec.decode (.plain _) (EventCodec.encodeV0 (.plain _) e) = .ok e := by
  obtain ⟨d,events,envelopes,hl,ht,hdec,henv,htx⟩ : ∃ d events envelopes,
      WirLoader.mapDefinition .insertion (chargeWir "declined") = .ok d ∧ start.tenantId = d.tenantId ∧
      decideEvents d {} start.command (everyEight.context start) = .ok events ∧
      attachMetadata d start actor everyEight 0 events = .ok envelopes ∧
      ∀ e ∈ envelopes, AllNamed (d.eventTexts e.event) := ⟨_,_,_,rfl,rfl,rfl,rfl,by decide⟩
  refine ⟨d,events,envelopes,hl,hdec,henv,fun e he => ?_⟩
  exact (event_readable_iff (.plain _) (mapDefinition_accepted hl) ht trivial hdec henv he).mpr (htx e he)

/-- The loader takes a blank error reference for a reference, the event codec takes it for none: the armed
boundary event is not read back. -/
theorem boundary_reference_lost :
    ∃ d events envelopes e, WirLoader.mapDefinition .insertion (chargeWir " ") = .ok d ∧
      decideEvents d {} start.command (everyEight.context start) = .ok events ∧
      attachMetadata d start actor everyEight 0 events = .ok envelopes ∧ e ∈ envelopes ∧
      EventCodec.decode (.plain _) (EventCodec.encode (.plain _) e) ≠ .ok e ∧
      EventCodec.decode (.plain _) (EventCodec.encodeV0 (.plain _) e) ≠ .ok e := by
  refine ⟨_,_,_,_,rfl,rfl,rfl,.tail _ (.tail _ (.head _)),?_,?_⟩ <;> decide

end BpmpPlatform
