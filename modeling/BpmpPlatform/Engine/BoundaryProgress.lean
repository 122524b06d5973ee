import BpmpPlatform.Engine.BoundaryAgreement

/-! # When the projection moves on

The projector reads one log for all tenants and stops at the first record it cannot read or schedule.
-/
namespace BpmpPlatform
open Std Outcome EventCodec List

/-- The check `resolve_boundary_targets` makes of a trigger, with the detail of its diagnostic. -/
def boundaryTriggerDiagnostic : Option Wir.EventTrigger → Option String
  | none => some "must declare timer, error, message, or compensation definition"
  | some (.timer expression kind) =>
    if kind = 0 ∨ Text.isBlank expression = true then
      some "timer requires one non-empty timeDate, timeDuration, or timeCycle"
    else none
  | some (.message messageRef) =>
    if Text.isBlank messageRef = true then some "message event requires messageRef" else none
  | some (.error _) => none

def BoundaryTrigger.Decodable : BoundaryTrigger → Prop
  | .timer _ expression => Text.isBlank expression = false
  | .error _ => True
  | .message messageRef => Text.isBlank messageRef = false

/-- The decoder accepts the event, even if it does not give it back unchanged. -/
def DomainEvent.Decodable : DomainEvent → Prop
  | .userTaskActivated _ _ assignmentPolicyRef _ _ => AllNamed [assignmentPolicyRef]
  | .boundaryEventArmed _ _ _ _ trigger _ => trigger.Decodable
  | .multiInstanceStarted _ _ _ _ maxParallelism _ _ _ => maxParallelism ≠ 0
  | e => Legible e

namespace EventCodec

theorem outputs_isOk_iff {outputs : Variables} :
    (∃ outputs', collectMap workflowVariableFromWire (outputsToWire outputs) = .ok outputs') ↔
      AllNamed outputs.keys := by
  refine ⟨?_,fun h => ⟨outputs,outputs_roundTrip.mpr h⟩⟩
  rintro ⟨outputs',h⟩ name hn
  simp only [collectMap, bind_eq_ok, collectAll_eq_ok, outputsToWire, forall₂_map_left_iff] at h
  obtain ⟨decoded,hde,_⟩ := h
  rw [← ExtTreeMap.map_fst_toList_eq_keys] at hn
  obtain ⟨⟨name,value⟩,hin,rfl⟩ := mem_map.mp hn
  obtain ⟨⟨_,_⟩,_,hr⟩ := exists_of_forall₂ hde hin
  exact (workflowVariable_roundTrip.mp hr).1

theorem boundaryTrigger_isOk_iff {trigger : BoundaryTrigger} :
    (∃ trigger', boundaryTriggerFromWire (boundaryTriggerToWire trigger).1 (boundaryTriggerToWire trigger).2 =
      .ok trigger') ↔ trigger.Decodable := by
  cases trigger with
  | timer kind =>
    cases kind <;> simp [boundaryTriggerToWire, boundaryTriggerFromWire, BoundaryTrigger.Decodable]
  | error | message => simp [boundaryTriggerToWire, boundaryTriggerFromWire, BoundaryTrigger.Decodable]

theorem event_isOk_iff {e : DomainEvent} :
    (∃ e', eventFromWire (eventTime e) (eventToWire e) = .ok e') ↔ e.Decodable := by
  cases e with
  | serviceTaskCompleted => simp [eventFromWire, eventToWire, DomainEvent.Decodable, Legible, ← outputs_isOk_iff]
  | decisionTaskEvaluated _ tableId outputs =>
    have hc : AllNamed (tableId :: outputs.keys) ↔ Text.isBlank tableId = false ∧ AllNamed outputs.keys := by
      simp [AllNamed]
    simp [eventFromWire, eventToWire, DomainEvent.Decodable, Legible, hc, ← outputs_isOk_iff]
  | boundaryEventArmed => simp [eventFromWire, eventToWire, DomainEvent.Decodable, ← boundaryTrigger_isOk_iff]
  | _ => simp [eventFromWire, eventToWire, DomainEvent.Decodable, Legible, AllNamed]

end EventCodec

section Records
variable {rfc3339 : String → Option Int} {policy : BoundaryRuntimePolicy} {format : MessageFormat Wire.EventEnvelope}
  {store : MemoryState format} {log : CallLog} {r : OutboxRecord format} {e : EventEnvelope}

def DomainEvent.Schedulable (rfc3339 : String → Option Int) (policy : BoundaryRuntimePolicy) : DomainEvent → Prop
  | .boundaryEventArmed _ _ _ _ (.timer kind expression) occurredAt =>
    ∃ schedule, timerSchedule rfc3339 policy (.timer kind expression) occurredAt = .ok schedule
  | _ => True

theorem projectionMutation_isOk_iff {record : BoundaryProjectionRecord} :
    (∃ mutation, projectionMutation rfc3339 policy record = .ok mutation) ↔
      record.envelope.event.Schedulable rfc3339 policy := by
  obtain ⟨cursor,metadata,event⟩ := record
  cases event with
  | boundaryEventArmed id attached target cancel trigger =>
    cases trigger with
    | timer =>
      simp only [projectionMutation, bind_eq_ok, pure_eq_ok, DomainEvent.Schedulable]
      constructor
      · rintro ⟨_,schedule,hsc,_⟩; exact ⟨schedule,hsc⟩
      · rintro ⟨schedule,hsc⟩; exact ⟨_,schedule,hsc,rfl⟩
    | error | message => exact iff_of_true ⟨_,rfl⟩ trivial
  | boundaryEventsDisarmed _ ids =>
    rcases ids with _ | ⟨_,_ | _⟩ <;> exact iff_of_true ⟨_,rfl⟩ trivial
  | boundaryEventTriggered _ _ _ cancel => cases cancel <;> exact iff_of_true ⟨_,rfl⟩ trivial
  | _ => exact iff_of_true ⟨_,rfl⟩ trivial

theorem schedulable_read {event event' : DomainEvent}
    (h : EventCodec.eventFromWire (eventTime event) (eventToWire event) = .ok event') :
    event'.Schedulable rfc3339 policy ↔ event.Schedulable rfc3339 policy := by
  rcases eventFromWire_read h with ⟨_,_,_,_,trigger,trigger',_,rfl,rfl,htr⟩ | ⟨har,har',_,_⟩
  · cases trigger with
    | timer => rw [boundaryTrigger_read rfl htr]
    | error =>
      simp only [boundaryTriggerToWire, EventCodec.boundaryTriggerFromWire, triggerFrom, Except.ok.injEq] at htr
      rw [← htr]
      exact Iff.rfl
    | message => rw [boundaryTrigger_read rfl htr]
  · have hpl {event : DomainEvent} (hev : event.isArming = false) : event.Schedulable rfc3339 policy := by
      cases event with
      | boundaryEventArmed => cases hev
      | _ => trivial
    exact iff_of_true (hpl har') (hpl har)

/-- A record of the engine can be read and projected exactly when its event is decodable and schedulable. -/
theorem record_projectable_iff (hp : Publishes r e) {c : Call} (he : Emitted c e) :
    (∃ record mutation, projectionRecord r = .ok record ∧ projectionMutation rfc3339 policy record = .ok mutation) ↔
      e.event.Decodable ∧ e.event.Schedulable rfc3339 policy := by
  rw [← EventCodec.event_isOk_iff]
  constructor
  · rintro ⟨record,mutation,hr,hmu⟩
    obtain ⟨event,hev,rfl⟩ := (projectionRecord_eq_ok hp he).mp hr
    exact ⟨⟨event,hev⟩,(schedulable_read hev).mp (projectionMutation_isOk_iff.mp ⟨mutation,hmu⟩)⟩
  · rintro ⟨⟨event,hev⟩,hsc⟩
    have hr : (⟨r.cursor, e.metadata, event⟩ : BoundaryProjectionRecord).envelope.event.Schedulable rfc3339 policy :=
      (schedulable_read hev).mpr hsc
    obtain ⟨mutation,hmu⟩ := projectionMutation_isOk_iff.mpr hr
    exact ⟨_,mutation,(projectionRecord_eq_ok hp he).mpr ⟨event,hev,rfl⟩,hmu⟩

theorem batch_projectable_iff {window : List (OutboxRecord format)} :
    (∃ records mutations, List.Forall₂ (fun r record => projectionRecord r = .ok record) window records ∧
      projectionMutations rfc3339 policy records = .ok mutations) ↔
      ∀ r ∈ window, ∃ record mutation, projectionRecord r = .ok record ∧
        projectionMutation rfc3339 policy record = .ok mutation := by
  induction window with
  | nil => exact iff_of_true ⟨[],[],.nil,rfl⟩ (by simp)
  | cons r window ih =>
    rw [forall_mem_cons, ← ih]
    constructor
    · rintro ⟨_,_,hf,hm⟩
      obtain ⟨record,records,hre,hrs,rfl⟩ := forall₂_cons_left_iff.mp hf
      simp only [projectionMutations, bind_eq_ok] at hm
      obtain ⟨mutation,hmu,mutations,hm,_⟩ := hm
      exact ⟨⟨record,mutation,hre,hmu⟩,records,mutations,hrs,hm⟩
    · rintro ⟨⟨record,mutation,hre,hmu⟩,records,mutations,hrs,hm⟩
      refine ⟨record :: records,mutation.toList ++ mutations,.cons hre hrs,?_⟩
      simp only [projectionMutations, hmu, hm, ok_bind]
      rfl

theorem Handled.published_event (h : Handled log store) (hr : r ∈ store.outbox) :
    ∃ key, ∃ e ∈ store.stream key, Publishes r e := by
  induction h with
  | start => cases hr
  | @call log store store' c outcome _ hc ih =>
    rcases handle_effect hc with hobs | ⟨x,hx⟩
    · obtain ⟨key,e,he,hp⟩ := ih (hobs.outbox ▸ hr)
      exact ⟨key,e,hobs.stream key ▸ he,hp⟩
    · rw [hx.outbox] at hr
      rcases mem_append.mp hr with hr | hr
      · obtain ⟨key,e,he,hp⟩ := ih hr
        refine ⟨key,e,?_,hp⟩
        rw [hx.stream]
        split
        · exact mem_append_left _ he
        · exact he
      · obtain ⟨e,he,hp⟩ := exists_of_forall₂ hx.publishes hr
        refine ⟨c.request.streamKey,e,?_,hp⟩
        rw [hx.stream, if_pos rfl]
        exact mem_append_right _ he

/-- In every run, whatever the policy and wherever the checkpoint below the end of the outbox: the next pass
succeeds and moves the checkpoint exactly when the events of its batch are decodable and their timers can
be scheduled. -/
theorem projection_advances_iff (h : Handled log store) {b : MemoryBoundaryState}
    (hk : b.projectionCheckpoint < store.outbox.length) :
    (∃ outcome b', projectOnce rfc3339 policy store b = .ok (outcome, b') ∧
      b.projectionCheckpoint < b'.projectionCheckpoint) ↔
    policy.projectionBatchSize ≠ 0 ∧ ∀ r ∈ projectionWindow store policy b,
      ∃ key, ∃ e ∈ store.stream key, Publishes r e ∧ e.event.Decodable ∧ e.event.Schedulable rfc3339 policy := by
  have hev (r : OutboxRecord format) (hr : r ∈ projectionWindow store policy b) :
      (∃ record mutation, projectionRecord r = .ok record ∧ projectionMutation rfc3339 policy record = .ok mutation) ↔
        ∃ key, ∃ e ∈ store.stream key, Publishes r e ∧ e.event.Decodable ∧ e.event.Schedulable rfc3339 policy := by
    constructor
    · intro hre
      obtain ⟨key,e,he,hp⟩ := h.published_event (mem_of_mem_drop (mem_of_mem_take hr))
      obtain ⟨_,_,hem⟩ := h.emitted he
      exact ⟨key,e,he,hp,(record_projectable_iff hp hem).mp hre⟩
    · rintro ⟨key,e,he,hp,hb⟩
      obtain ⟨_,_,hem⟩ := h.emitted he
      exact (record_projectable_iff hp hem).mpr hb
  rw [← forall₂_congr hev, ← batch_projectable_iff]
  simp only [projectOnce_eq_ok h.serialized.cursors h.outbox_bounded]
  constructor
  · rintro ⟨_,_,⟨hs,records,mutations,hrs,hm,_,_⟩,_⟩; exact ⟨hs,records,mutations,hrs,hm⟩
  · rintro ⟨hs,records,mutations,hrs,hm⟩
    refine ⟨_,_,⟨hs,records,mutations,hrs,hm,rfl,rfl⟩,?_⟩
    have hl := hrs.length_eq
    rw [projectionWindow, length_take, length_drop] at hl
    show b.projectionCheckpoint < b.projectionCheckpoint + records.length
    omega

end Records

namespace Sample

def timedWir (expression : String) : Wir.WorkflowIntermediateRepresentation :=
  cardWir (charging (.timer expression 2))

def otherWir : Wir.WorkflowIntermediateRepresentation := { chargeWir "declined" with tenantId := "tenant-b" }

def otherStart : AuthorizedCommand := { request (.startWorkflow (.lit "tenant-b") 6) with tenantId := .lit "tenant-b" }

def tenantCalls (d other : WorkflowDefinition) : List Call :=
  [⟨ports everyEight, d, start⟩, ⟨ports everyEight, other, otherStart⟩]

def tenantStore (d other : WorkflowDefinition) : MemoryState (.plain _) :=
  (handleAll (.plain _) (tenantCalls d other)).2

end Sample

open Sample

theorem projection_advances_iff_charge : ∃ d, WirLoader.mapDefinition .insertion (timedWir "PT5S") = .ok d ∧
      ∀ r ∈ projectionWindow (chargeStore d) boundaryPolicy { projectionCheckpoint := 2 },
        ∃ key, ∃ e ∈ (chargeStore d).stream key, Publishes r e ∧ e.event.Decodable ∧
          e.event.Schedulable (fun _ => none) boundaryPolicy := by
  obtain ⟨d,hl,hk,hp⟩ : ∃ d, WirLoader.mapDefinition .insertion (timedWir "PT5S") = .ok d ∧
      2 < (chargeStore d).outbox.length ∧
      ∃ outcome b', projectOnce (fun _ => none) boundaryPolicy (chargeStore d) { projectionCheckpoint := 2 } =
        .ok (outcome, b') ∧ 2 < b'.projectionCheckpoint := ⟨_,rfl,by decide,_,_,rfl,by decide⟩
  exact ⟨d,hl,((projection_advances_iff (handled_handleAll (.plain _) (chargeCalls d)) hk).mp hp).2⟩

/-- A duration the compiler and the loader accept stops the projection before the events of all tenants. -/
theorem timer_stalls_projection : ∃ d other b₁ o₁, boundaryTriggerDiagnostic (some (.timer "soon" 2)) = none ∧
      WirLoader.mapDefinition .insertion (timedWir "soon") = .ok d ∧
      WirLoader.mapDefinition .insertion otherWir = .ok other ∧
      (tenantStore d other).outbox.map OutboxRecord.tenantId =
        ["tenant-a", "tenant-a", "tenant-a", "tenant-b", "tenant-b", "tenant-b"] ∧
      projectOnce (fun _ => none) boundaryPolicy (tenantStore d other) {} = .ok (o₁, b₁) ∧
      b₁.projectionCheckpoint = 2 ∧
      projectOnce (fun _ => none) boundaryPolicy (tenantStore d other) b₁ =
        .error .invalidTimerExpression :=
  ⟨_,_,_,_,rfl,rfl,rfl,by decide,rfl,rfl,rfl⟩

end BpmpPlatform
