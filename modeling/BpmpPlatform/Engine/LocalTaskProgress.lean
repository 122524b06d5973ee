import BpmpPlatform.Engine.LocalTasks
import BpmpPlatform.Engine.BoundaryProgress

/-! # When the local task runtime moves on

The runtime works on one log for all tenants and stops at the first record it cannot pass on.
-/
namespace BpmpPlatform
open Std Outcome List

/-- The executor decides about every activation, the storage takes every remote task, and the engine lets every
completion through. -/
structure LocalTaskPorts.Reliable (ports : LocalTaskPorts) : Prop where
  executes : ∀ activation, ∃ outcome, ports.execute activation = .ok outcome
  stores : ∀ task, ∃ outcome, ports.storeRemoteTask task = .ok outcome
  grants : ∀ activation definition request, prepareCompletion ports activation = .ok (definition, request) →
    ∃ principal configuration, Granted ports.engine definition request principal configuration

variable {format : MessageFormat Wire.EventEnvelope} {s s' : LocalTaskState format} {log : CallLog}
  {r : OutboxRecord format} {activation : LocalTaskActivation} {checkpoint : Nat} {given : List Handover}

section Records

/-- The activation can be passed on. A declined one has to be a service task with a time; of an executed one
the completion has to be known, or taken by the instance in its current state. -/
def Deliverable (ports : LocalTaskPorts) (store : MemoryState format) (activation : LocalTaskActivation) : Prop :=
  match ports.execute activation with
  | .ok .completed => ∃ definition request principal configuration,
      prepareCompletion ports activation = .ok (definition, request) ∧
      Granted ports.engine definition request principal configuration ∧
      (Recorded store request principal.actorId ∨
        ∃ events, Takes store definition request principal.actorId (configuration.context request) events)
  | .ok .notHandled => activation.kind = .service ∧ activation.occurredAtEpochMs ≠ 0
  | .error _ => False

def Passable (ports : LocalTaskPorts) (s : LocalTaskState format) (r : OutboxRecord format) : Prop :=
  ∃ key, ∃ e ∈ s.store.stream key, Publishes r e ∧ e.event.Decodable ∧
    ∀ activation, localTaskActivation r.cursor e = some activation → Deliverable ports s.store activation

def OutboxRecord.task (r : OutboxRecord format) : Option LocalTaskActivation :=
  (projectionRecord r).toOption.bind fun record => localTaskActivation r.cursor record.envelope

variable {ports : LocalTaskPorts} {store : MemoryState format} {e : EventEnvelope} {cursor : Nat} {c : Call}

theorem readRecord_eq_ok {e' : EventEnvelope} :
    readRecord checkpoint r = .ok e' ↔ checkpoint < r.cursor ∧ projectionRecord r = .ok ⟨r.cursor, e'⟩ := by
  simp only [readRecord, projectionRecord, bind_eq_ok, ensure_eq_ok, decide_eq_true_eq, mapError_eq_ok,
    pure_eq_ok, BoundaryProjectionRecord.mk.injEq, true_and, exists_and_left, exists_const]

/-- Reading an event back does not change what it activates. -/
theorem localTaskActivation_read {metadata : EventMetadata} {event event' : DomainEvent}
    (h : EventCodec.eventFromWire (eventTime event) (eventToWire event) = .ok event') (cursor : Nat) :
    localTaskActivation cursor ⟨metadata, event'⟩ = localTaskActivation cursor ⟨metadata, event⟩ := by
  cases event <;>
    simp only [EventCodec.eventFromWire, eventToWire, eventTime, bind_eq_ok, pure_eq_ok,
      EventCodec.identifier_value, EventCodec.identifiers_value, Except.ok.injEq, exists_eq_left'] at h
  case scriptTaskActivated =>
    simp only [EventCodec.nonEmpty_eq_ok_iff] at h
    obtain ⟨_,⟨_,rfl⟩,_,⟨_,rfl⟩,rfl⟩ := h
    rfl
  case serviceTaskCompleted | userTaskActivated | userTaskCancelled | multiInstanceIterationActivated =>
    obtain ⟨_,_,rfl⟩ := h
    rfl
  case userTaskCompleted | decisionTaskEvaluated | casePlanItemTransitioned | scopeEntered =>
    obtain ⟨_,_,_,_,rfl⟩ := h
    rfl
  case boundaryEventArmed =>
    obtain ⟨_,_,rfl⟩ := h
    rfl
  case multiInstanceStarted | workflowTerminatedForCompliance =>
    obtain ⟨_,_,_,_,_,_,rfl⟩ := h
    rfl
  all_goals
    subst h
    rfl

structure LocalTaskActivation.Describes (activation : LocalTaskActivation) (cursor : Nat) (e : EventEnvelope) : Prop where
  cursor : activation.cursor = cursor
  eventId : activation.eventId = e.metadata.eventId
  eventSequence : activation.eventSequence = e.metadata.sequence
  tenantId : activation.tenantId = e.metadata.tenantId
  instanceId : activation.instanceId = e.metadata.instanceId.value
  taskType : Text.isBlank activation.taskType = false

theorem describes_of_activation (h : localTaskActivation cursor e = some activation) :
    activation.Describes cursor e := by
  obtain ⟨metadata,event⟩ := e
  cases event with
  | serviceTaskActivated nodeId taskType | scriptTaskActivated nodeId taskType =>
    cases h
    exact ⟨rfl,rfl,rfl,rfl,rfl,taskType.nonBlank⟩
  | _ => cases h

theorem eventIdOf_nonBlank (commandId : CommandId) (sequence : Nat) : Text.isBlank (eventIdOf commandId sequence) = false := by
  have h := commandId.nonBlank
  rw [Text.isBlank] at h ⊢
  rw [eventIdOf, String.toList_append, String.toList_append, all_append, all_append, h]
  rfl

/-- The remote queue takes the service tasks that carry a time. -/
theorem enqueueRemoteTask_isOk_iff (hp : ports.Reliable) (ha : localTaskActivation cursor e = some activation)
    (he : Emitted c e) (hseq : e.metadata.sequence ≠ 0) :
    (∃ outcome, enqueueRemoteTask ports activation = .ok outcome) ↔
      activation.kind = .service ∧ activation.occurredAtEpochMs ≠ 0 := by
  have hd := describes_of_activation ha
  obtain ⟨_,_,_,_,_,_,_,_,hm⟩ := he
  have hid : Text.isBlank activation.eventId = false := by
    rw [hd.eventId, hm]
    exact eventIdOf_nonBlank _ _
  have hin : Identifier.new .InstanceId activation.instanceId = .ok e.metadata.instanceId := by
    rw [hd.instanceId, Identifier.new_value]
  simp only [enqueueRemoteTask, RemoteTask.tryFrom, validateRemoteTask, hin, bind_eq_ok, ensure_eq_ok,
    beq_iff_eq, mapError_eq_ok, pure_eq_ok, Except.ok.injEq, exists_and_left, exists_const]
  constructor
  · rintro ⟨outcome,_,⟨hk,_,rfl,rfl⟩,hva,_⟩
    simp only [Bool.and_eq_true, bne_iff_ne] at hva
    exact ⟨hk,hva.2⟩
  · rintro ⟨hk,ht⟩
    obtain ⟨outcome,hs⟩ := hp.stores {
      taskId := activation.eventId, tenantId := activation.tenantId, instanceId := e.metadata.instanceId,
      workflowType := activation.workflowType, workflowVersion := activation.workflowVersion,
      nodeId := activation.nodeId, taskType := activation.taskType, activationEventId := activation.eventId,
      activationSequence := activation.eventSequence, activatedAtEpochMs := activation.occurredAtEpochMs,
      correlationId := activation.correlationId, configVersion := activation.configVersion,
      policyVersion := activation.policyVersion }
    refine ⟨outcome,_,⟨hk,_,rfl,rfl⟩,?_,hs⟩
    simp [hid, hd.taskType, hd.eventSequence, hseq, ht]

theorem dispatchCompletion_isOk_iff (hp : ports.Reliable) (h : Handled log store) :
    (∃ u, (dispatchCompletion ports activation store).1 = .ok u) ↔ ∃ d request principal configuration,
      prepareCompletion ports activation = .ok (d, request) ∧
      Granted ports.engine d request principal configuration ∧ (Recorded store request principal.actorId ∨
        ∃ events, Takes store d request principal.actorId (configuration.context request) events) := by
  cases hpr : prepareCompletion ports activation with
  | error => simp [dispatchCompletion, hpr]
  | ok pair =>
    obtain ⟨d,request⟩ := pair
    have hc : (∃ u, (dispatchCompletion ports activation store).1 = .ok u) ↔
        ∃ outcome, (handle ports.engine d request store).1 = .ok outcome := by
      simp only [dispatchCompletion, hpr]
      generalize handle ports.engine d request store = result
      obtain ⟨outcome,store'⟩ := result
      cases outcome <;> simp
    obtain ⟨principal,configuration,hg⟩ := hp.grants activation d request hpr
    rw [hc]
    constructor
    · intro hok
      exact ⟨d,request,principal,configuration,rfl,hg,(hg.handle_isOk_iff h).mp hok⟩
    · rintro ⟨_,_,principal',configuration',hpa,hg',hkn⟩
      cases hpa
      exact (hg'.handle_isOk_iff h).mpr hkn

theorem handOver_isOk_iff (hp : ports.Reliable) (h : Handled log store)
    (ha : localTaskActivation cursor e = some activation) (he : Emitted c e) (hseq : e.metadata.sequence ≠ 0) :
    (∃ done, (handOver ports activation store).1 = .ok done) ↔ Deliverable ports store activation := by
  unfold handOver Deliverable
  obtain ⟨outcome,hex⟩ := hp.executes activation
  cases outcome with
  | completed =>
    simp only [hex, ← dispatchCompletion_isOk_iff hp h]
    generalize dispatchCompletion ports activation store = result
    obtain ⟨outcome,store'⟩ := result
    cases outcome <;> simp
  | notHandled =>
    simp only [hex, ← enqueueRemoteTask_isOk_iff hp ha he hseq]
    cases enqueueRemoteTask ports activation <;> simp

end Records

section Stores
variable {ports : LocalTaskPorts} {store store' : MemoryState format}

structure LogContinues (store store' : MemoryState format) : Prop where
  handled : ∃ log, Handled log store'
  outbox : store.outbox <+: store'.outbox

section
variable (h : Handled log store) {outcome : Except LocalTaskRuntimeError Bool}
include h

theorem LogContinues.refl : LogContinues store store := ⟨⟨log,h⟩,prefix_refl _⟩

theorem Handled.logContinues {enginePorts : EnginePorts} {d : WorkflowDefinition}
    {request : AuthorizedCommand} {outcome : Except EngineError HandleOutcome}
    (hc : handle enginePorts d request store = (outcome, store')) : LogContinues store store' := by
  refine ⟨⟨_,.call (c := ⟨enginePorts, d, request⟩) h hc⟩,?_⟩
  rcases handle_effect hc with hobs | ⟨x,hx⟩
  · rw [hobs.outbox]
  · rw [hx.outbox]
    exact prefix_append _ _

/-- A completion is a call of the engine, and leaves no trace when it fails. -/
theorem dispatchCompletion_spec {outcome : Except CompletionFailure Unit}
    (hd : dispatchCompletion ports activation store = (outcome, store')) :
    LogContinues store store' ∧ ∀ error, outcome = .error error → Observes store store' := by
  unfold dispatchCompletion at hd
  split at hd
  · cases hd
    exact ⟨.refl h,fun _ _ => .refl _⟩
  · split at hd
    · rename_i d request _ _ _ hc
      cases hd
      refine ⟨h.logContinues hc,fun _ _ => ?_⟩
      rcases handle_cases hc with ⟨_,_,hobs⟩ | ⟨_,_,hok,_⟩ | ⟨_,hok,_⟩
      · exact hobs
      · cases hok
      · cases hok
    · rename_i hc
      cases hd
      exact ⟨h.logContinues hc,fun _ he => by cases he⟩

/-- Nothing but the activation is handed over, and it is unless there is an error. -/
theorem handOver_spec (hd : handOver ports activation store = (outcome, store', given)) :
    LogContinues store store' ∧ (∀ g ∈ given, g.activation = activation) ∧
      match outcome with
      | .error _ => Observes store store'
      | .ok _ => given ≠ [] := by
  unfold handOver at hd
  split at hd
  · cases hd
    exact ⟨.refl h,forall_mem_nil _,.refl _⟩
  · split at hd
    · rename_i hdi
      cases hd
      obtain ⟨hc,hobs⟩ := dispatchCompletion_spec h hdi
      exact ⟨hc,forall_mem_singleton.mpr rfl,hobs _ rfl⟩
    · rename_i hdi
      cases hd
      exact ⟨(dispatchCompletion_spec h hdi).1,forall_mem_singleton.mpr rfl,cons_ne_nil _ _⟩
  · split at hd
    · cases hd
      exact ⟨.refl h,forall_mem_nil _,.refl _⟩
    · cases hd
      exact ⟨.refl h,forall_mem_singleton.mpr rfl,cons_ne_nil _ _⟩

/-- Only the task of a record is handed over, and it is when the record is passed on. -/
theorem passOn_spec (hd : passOn ports checkpoint r store = (outcome, store', given)) :
    LogContinues store store' ∧ (∀ g ∈ given, r.task = some g.activation) ∧
      match outcome with
      | .error _ => Observes store store'
      | .ok _ => (∃ record, projectionRecord r = .ok record) ∧
        ∀ activation, r.task = some activation → ∃ g ∈ given, g.activation = activation := by
  unfold passOn at hd
  split at hd
  · cases hd
    exact ⟨.refl h,forall_mem_nil _,.refl _⟩
  · rename_i envelope hre
    obtain ⟨_,hr⟩ := readRecord_eq_ok.mp hre
    have ht : r.task = localTaskActivation r.cursor envelope := by
      rw [OutboxRecord.task, hr]
      rfl
    split at hd
    · rename_i hn
      cases hd
      refine ⟨.refl h,forall_mem_nil _,⟨_,hr⟩,fun activation ha => ?_⟩
      rw [ht, hn] at ha
      cases ha
    · rename_i activation hs
      obtain ⟨hc,hg,ho⟩ := handOver_spec h hd
      refine ⟨hc,fun g hm => by rw [ht, hs, hg g hm],?_⟩
      cases outcome with
      | error => exact ho
      | ok =>
        refine ⟨⟨_,hr⟩,fun activation' ha => ?_⟩
        rw [ht, hs] at ha
        cases ha
        obtain ⟨g,hm⟩ := exists_mem_of_ne_nil _ ho
        exact ⟨g,hm,hg g hm⟩

end

end Stores

section Runs
variable {ports : LocalTaskPorts} {records : List (OutboxRecord format)} {store' : MemoryState format} {done : Bool}
  {error : LocalTaskRuntimeError}

structure Upcoming (s : LocalTaskState format) (records : List (OutboxRecord format)) : Prop where
  handled : ∃ log, Handled log s.store
  records : records <+: s.store.outbox.drop s.checkpoint

section
variable (h : Upcoming s (r :: records))
include h

theorem Upcoming.drop_eq : ∃ rest, s.store.outbox.drop s.checkpoint = r :: (records ++ rest) := by
  obtain ⟨rest,hr⟩ := h.records
  exact ⟨rest,hr.symm⟩

theorem Upcoming.cursor_eq : r.cursor = s.checkpoint + 1 := by
  obtain ⟨log,hlog⟩ := h.handled
  obtain ⟨rest,hr⟩ := h.drop_eq
  have hw := hlog.serialized.cursors.window_numbers s.checkpoint 1
  rw [hr] at hw
  simpa using hw

theorem Upcoming.mem : r ∈ s.store.outbox := by
  obtain ⟨rest,hr⟩ := h.drop_eq
  exact mem_of_mem_drop (by rw [hr]; exact mem_cons_self)

theorem Upcoming.lt_length : s.checkpoint < s.store.outbox.length := by
  obtain ⟨rest,hr⟩ := h.drop_eq
  have := congrArg List.length hr
  rw [length_drop, length_cons] at this
  omega

end

theorem Upcoming.passOn_isOk_iff (hpo : ports.Reliable) (h : Upcoming s (r :: records)) :
    (∃ done, (passOn ports s.checkpoint r s.store).1 = .ok done) ↔ Passable ports s r := by
  obtain ⟨log,hlog⟩ := h.handled
  have hre {key : StreamKey} {e : EventEnvelope} (he : e ∈ s.store.stream key) (hp : Publishes r e) {e' : EventEnvelope} :
      readRecord s.checkpoint r = .ok e' ↔
        ∃ event, EventCodec.eventFromWire (eventTime e.event) (eventToWire e.event) = .ok event ∧
          e' = ⟨e.metadata, event⟩ := by
    obtain ⟨_,_,hem⟩ := hlog.emitted he
    rw [readRecord_eq_ok, h.cursor_eq]
    simp [projectionRecord_eq_ok hp hem, h.cursor_eq]
  have hsq {key : StreamKey} {e : EventEnvelope} (he : e ∈ s.store.stream key) : e.metadata.sequence ≠ 0 := by
    obtain ⟨i,hi,rfl⟩ := getElem_of_mem he
    have hn := (hlog.replayable key).numbered.number_getElem hi
    rw [EventEnvelope.sequence] at hn
    omega
  have hgi {key : StreamKey} {e e' : EventEnvelope} (he : e ∈ s.store.stream key) (hp : Publishes r e)
      (hr : readRecord s.checkpoint r = .ok e') : (∃ done, (passOn ports s.checkpoint r s.store).1 = .ok done) ↔
        ∀ activation, localTaskActivation r.cursor e = some activation → Deliverable ports s.store activation := by
    obtain ⟨_,_,hem⟩ := hlog.emitted he
    obtain ⟨event,hev,rfl⟩ := (hre he hp).mp hr
    simp only [passOn, hr, localTaskActivation_read hev]
    cases ha : localTaskActivation r.cursor e with
    | none => simp
    | some => simp [← handOver_isOk_iff hpo hlog ha hem (hsq he)]
  constructor
  · intro hok
    obtain ⟨key,e,he,hp⟩ := hlog.published_event h.mem
    cases hr : readRecord s.checkpoint r with
    | error =>
      obtain ⟨_,hok⟩ := hok
      simp only [passOn, hr] at hok
      cases hok
    | ok =>
      obtain ⟨event,hev,_⟩ := (hre he hp).mp hr
      exact ⟨key,e,he,hp,EventCodec.event_isOk_iff.mp ⟨event,hev⟩,(hgi he hp hr).mp hok⟩
  · rintro ⟨key,e,he,hp,hdec,hde⟩
    obtain ⟨event,hev⟩ := EventCodec.event_isOk_iff.mpr hdec
    exact (hgi he hp ((hre he hp).mpr ⟨event,hev,rfl⟩)).mpr hde

theorem Upcoming.processRecord_ok (h : Upcoming s (r :: records))
    (hp : passOn ports s.checkpoint r s.store = (.ok done, store', given)) :
    processRecord ports s.checkpoint r s = (.ok done, ⟨store', s.checkpoint + 1⟩, given) ∧
      Upcoming ⟨store', s.checkpoint + 1⟩ records := by
  obtain ⟨log,hlog⟩ := h.handled
  obtain ⟨hc,_⟩ := passOn_spec hlog hp
  obtain ⟨new,hnew⟩ := hc.outbox
  have hl := h.lt_length
  have hco : ({ s with store := store' } : LocalTaskState format).checkpointLocalTask s.checkpoint r.cursor =
      .ok ⟨store', s.checkpoint + 1⟩ := by
    have hle : s.checkpoint + 1 ≤ store'.outbox.length := by
      rw [← hnew, length_append]
      omega
    simp [LocalTaskState.checkpointLocalTask, h.cursor_eq, ensure, hle, ok_bind]
  refine ⟨?_,hc.handled,?_⟩
  · rw [processRecord, hp]
    simp only [hco]
  · obtain ⟨rest,hr⟩ := h.drop_eq
    have hd : s.store.outbox.drop (s.checkpoint + 1) = records ++ rest := by
      rw [← drop_drop, hr]
      rfl
    have hle : s.checkpoint + 1 ≤ s.store.outbox.length := hl
    refine ⟨rest ++ new,?_⟩
    rw [← hnew, drop_append_of_le_length hle, hd, append_assoc]

theorem Upcoming.processRecord_error (h : Upcoming s (r :: records))
    (hp : passOn ports s.checkpoint r s.store = (.error error, store', given)) :
    processRecord ports s.checkpoint r s = (.error error, ⟨store', s.checkpoint⟩, given) ∧ Observes s.store store' := by
  obtain ⟨log,hlog⟩ := h.handled
  refine ⟨?_,(passOn_spec hlog hp).2.2⟩
  rw [processRecord, hp]

inductive Passes (ports : LocalTaskPorts) : List (OutboxRecord format) → LocalTaskState format →
    LocalTaskState format → Prop
  | nil {s : LocalTaskState format} : Passes ports [] s s
  | cons {s s₁ s' : LocalTaskState format} {r : OutboxRecord format} {records : List (OutboxRecord format)} {done : Bool}
      {given : List Handover} (hr : processRecord ports s.checkpoint r s = (.ok done, s₁, given))
      (h : Passes ports records s₁ s') : Passes ports (r :: records) s s'

section
variable {s₁ : LocalTaskState format} {given : List Handover}

theorem passes_cons (hr : processRecord ports s.checkpoint r s = (.ok done, s₁, given)) :
    Passes ports (r :: records) s s' ↔ Passes ports records s₁ s' := by
  refine ⟨fun h => ?_,.cons hr⟩
  cases h with
  | cons hr' h =>
    cases hr.symm.trans hr'
    exact h

theorem not_passes_cons (hr : processRecord ports s.checkpoint r s = (.error error, s₁, given)) :
    ¬ Passes ports (r :: records) s s' := by
  intro h
  cases h with
  | cons hr' => cases hr.symm.trans hr'

end

/-- The loop ends without an error exactly when it passes all the records. -/
theorem Upcoming.processRecords_ok_iff (h : Upcoming s records) {executed : Nat} :
    (∃ outcome given, processRecords ports s.checkpoint executed records s = (.ok outcome, s', given)) ↔
      Passes ports records s s' := by
  induction records generalizing s executed with
  | nil =>
    constructor
    · rintro ⟨_,_,heq⟩; cases heq; exact .nil
    · intro hp; cases hp; exact ⟨_,_,rfl⟩
  | cons r records ih =>
    rw [processRecords]
    cases hp : passOn ports s.checkpoint r s.store with
    | mk outcome rest =>
      obtain ⟨store',given⟩ := rest
      cases outcome with
      | error =>
        obtain ⟨heq,_⟩ := h.processRecord_error hp
        simp [heq, not_passes_cons heq]
      | ok done =>
        obtain ⟨heq,hn⟩ := h.processRecord_ok hp
        have hre : (∃ outcome given, processRecords ports (s.checkpoint + 1) (executed + done.toNat) records
            ⟨store', s.checkpoint + 1⟩ = (.ok outcome, s', given)) ↔ Passes ports records ⟨store', s.checkpoint + 1⟩ s' :=
          ih hn
        rw [passes_cons heq, ← hre]
        simp only [heq, h.cursor_eq, Prod.mk.injEq]
        constructor
        · rintro ⟨outcome,_,hok,hs,_⟩; exact ⟨outcome,_,Prod.ext hok (Prod.ext hs rfl)⟩
        · rintro ⟨outcome,_,hc⟩; exact ⟨outcome,_,by rw [hc],by rw [hc],rfl⟩

/-- All the records are passed exactly when each of them is passable once it is reached. -/
theorem Upcoming.passes_iff (hpo : ports.Reliable) (h : Upcoming s records) :
    (∃ s', Passes ports records s s' ∧ s'.checkpoint = s.checkpoint + records.length) ↔
      ∀ before r after s₁, records = before ++ r :: after → Passes ports before s s₁ → Passable ports s₁ r := by
  induction records generalizing s with
  | nil =>
    refine iff_of_true ⟨s,.nil,rfl⟩ fun before r after _ heq => ?_
    simp at heq
  | cons r records ih =>
    have hok := h.passOn_isOk_iff hpo
    cases hp : passOn ports s.checkpoint r s.store with
    | mk outcome rest =>
      obtain ⟨store',given⟩ := rest
      rw [hp] at hok
      cases outcome with
      | error =>
        obtain ⟨heq,_⟩ := h.processRecord_error hp
        refine iff_of_false (fun ⟨_,hpa,_⟩ => not_passes_cons heq hpa) fun hall => ?_
        obtain ⟨_,hc⟩ := hok.mpr (hall [] r records s rfl .nil)
        cases hc
      | ok done =>
        obtain ⟨heq,hn⟩ := h.processRecord_ok hp
        have hl : s.checkpoint + (r :: records).length = s.checkpoint + 1 + records.length := by
          rw [length_cons]
          omega
        simp only [passes_cons heq, hl]
        refine (ih hn).trans ⟨fun hall before r' after s₁ hs hb => ?_,fun hall before r' after s₁ hs hb =>
          hall (r :: before) r' after s₁ (by rw [hs, cons_append]) (.cons heq hb)⟩
        cases before with
        | nil =>
          cases hb
          cases hs
          exact hok.mp ⟨done,rfl⟩
        | cons =>
          cases hs
          exact hall _ r' after s₁ rfl ((passes_cons heq).mp hb)

def localTaskWindow (s : LocalTaskState format) (batchSize : Nat) : List (OutboxRecord format) :=
  (s.store.outbox.drop s.checkpoint).take batchSize

theorem upcoming_window (h : Handled log s.store) (batchSize : Nat) : Upcoming s (localTaskWindow s batchSize) :=
  ⟨⟨log,h⟩, take_prefix _ _⟩

theorem readBatch_eq (h : Handled log s.store) {batchSize : Nat} (hb : batchSize ≠ 0) :
    readBatch batchSize s = .ok (localTaskWindow s batchSize) := by
  simp only [readBatch, MemoryState.readAfter, bind_eq_ok, ensure_eq_ok, bne_iff_ne, mapError_eq_ok,
    pure_eq_ok, decide_eq_true_eq, h.serialized.cursors.filter_after]
  exact ⟨(),hb,_,⟨(),hb,rfl⟩,(),length_take_le _ _,rfl⟩

/-- In every run of the engine and with any size of a batch: the next run of the local task runtime passes all
the records it reads exactly when each of them is passable once the run gets there. A record that is not
passable stops the run, which then leaves the checkpoint where it was and the store as it can be observed. -/
theorem local_tasks_pass_iff (hports : ports.Reliable) (h : Handled log s.store) {batchSize : Nat}
    (hbatch : batchSize ≠ 0) :
    ((∃ outcome s' given, runOnceWithBatchSize ports batchSize s = (.ok outcome, s', given) ∧
        s'.checkpoint = s.checkpoint + (localTaskWindow s batchSize).length) ↔
      ∀ before r after s₁, localTaskWindow s batchSize = before ++ r :: after → Passes ports before s s₁ →
        Passable ports s₁ r) ∧ ∀ r records, localTaskWindow s batchSize = r :: records → ¬ Passable ports s r →
      ∃ error s' given, runOnceWithBatchSize ports batchSize s = (.error error, s', given) ∧
        s'.checkpoint = s.checkpoint ∧ Observes s.store s'.store := by
  have hw := upcoming_window h batchSize
  constructor
  · rw [← hw.passes_iff hports]
    have hrun : ∀ s', (∃ outcome given, runOnceWithBatchSize ports batchSize s = (.ok outcome, s', given)) ↔
        Passes ports (localTaskWindow s batchSize) s s' := by
      intro s'
      have hl : (∃ outcome given, processRecords ports s.checkpoint 0 (localTaskWindow s batchSize) s =
          (.ok outcome, s', given)) ↔ Passes ports (localTaskWindow s batchSize) s s' := hw.processRecords_ok_iff
      rw [← hl]
      simp only [runOnceWithBatchSize, readBatch_eq h hbatch]
      generalize processRecords ports s.checkpoint 0 (localTaskWindow s batchSize) s = result
      obtain ⟨outcome,s₁,given⟩ := result
      cases outcome <;> simp
    constructor
    · rintro ⟨outcome,s',given,hok,hcp⟩; exact ⟨s',(hrun s').mp ⟨outcome,given,hok⟩,hcp⟩
    · rintro ⟨s',hpa,hcp⟩
      obtain ⟨outcome,given,hok⟩ := (hrun s').mpr hpa
      exact ⟨outcome,s',given,hok,hcp⟩
  · intro r records hc hb
    rw [hc] at hw
    cases hp : passOn ports s.checkpoint r s.store with
    | mk outcome rest =>
      obtain ⟨store',given⟩ := rest
      have hok := hw.passOn_isOk_iff hports
      rw [hp] at hok
      cases outcome with
      | ok done => exact absurd (hok.mp ⟨done,rfl⟩) hb
      | error error =>
        obtain ⟨heq,hobs⟩ := hw.processRecord_error hp
        refine ⟨error,⟨store', s.checkpoint⟩,given,?_,rfl,hobs⟩
        simp only [runOnceWithBatchSize, readBatch_eq h hbatch, hc, processRecords, heq]

end Runs

namespace Sample

def taskPorts (definitions : List WorkflowDefinition) : LocalTaskPorts where
  execute := fun _ => .ok .completed
  resolveDefinition := fun tenantId workflowType workflowVersion => okOr "unknown workflow"
    (definitions.find? fun d => d.tenantId == tenantId && d.workflow == (workflowType, workflowVersion))
  credentials := fun _ => .ok ⟨[], [], .lit "key-1"⟩
  engine := ports everyEight
  storeRemoteTask := fun _ => .ok .enqueued

theorem taskPorts_reliable (definitions : List WorkflowDefinition) : (taskPorts definitions).Reliable := by
  refine ⟨fun _ => ⟨_,rfl⟩,fun _ => ⟨_,rfl⟩,fun activation d request hp => ?_⟩
  simp only [prepareCompletion, localTaskCompletion, taskPorts, bind_eq_ok, mapError_eq_ok, okOr_eq_ok,
    pure_eq_ok, Prod.mk.injEq] at hp
  obtain ⟨_,hf,_,⟨_,_,_,_,_,_,_,_,rfl⟩,_,hcr,rfl,rfl⟩ := hp
  cases hcr
  have hm := List.find?_some hf
  rw [Bool.and_eq_true, beq_iff_eq, beq_iff_eq] at hm
  exact ⟨principal,everyEight,hm.1.symm,rfl,rfl,rfl,rfl,by decide,by decide⟩

def cancelledCalls (d other : WorkflowDefinition) : List Call :=
  [⟨ports everyEight, d, start⟩,
    ⟨ports everyEight, d, { request (.triggerBoundaryEvent (.lit "failed") 6) with
      commandId := .lit "command-2", idempotencyKey := .lit "request-2" }⟩,
    ⟨ports everyEight, other, otherStart⟩]

def cancelledStore (d other : WorkflowDefinition) : MemoryState (.plain _) :=
  (handleAll (.plain _) (cancelledCalls d other)).2

end Sample

open Sample

theorem local_tasks_pass_iff_charge : ∃ d, WirLoader.mapDefinition .insertion (chargeWir "declined") = .ok d ∧
      ∀ before r after s₁, localTaskWindow ⟨chargeStore d, 0⟩ 8 = before ++ r :: after →
        Passes (taskPorts [d]) before ⟨chargeStore d, 0⟩ s₁ → Passable (taskPorts [d]) s₁ r := by
  obtain ⟨d,outcome,s',given,hl,hrun,hcp⟩ : ∃ d outcome s' given,
      WirLoader.mapDefinition .insertion (chargeWir "declined") = .ok d ∧
      runOnceWithBatchSize (taskPorts [d]) 8 ⟨chargeStore d, 0⟩ = (.ok outcome, s', given) ∧
      s'.checkpoint = 0 + (localTaskWindow ⟨chargeStore d, 0⟩ 8).length := ⟨_,_,_,_,rfl,rfl,rfl⟩
  exact ⟨d,hl,(local_tasks_pass_iff (taskPorts_reliable [d])
    (handled_handleAll (.plain _) (chargeCalls d)) (by decide)).1.mp ⟨outcome,s',given,hrun,hcp⟩⟩

/-- A task cancelled by its boundary event stops the runtime before the events of another tenant. The next run
starts from the state in which this one has ended. -/
theorem cancelled_task_stops_runtime :
    ∃ d other s₁ given, WirLoader.mapDefinition .insertion (chargeWir "declined") = .ok d ∧
      WirLoader.mapDefinition .insertion otherWir = .ok other ∧ (taskPorts [d, other]).Reliable ∧
      (cancelledStore d other).outbox.map OutboxRecord.tenantId =
        ["tenant-a", "tenant-a", "tenant-a", "tenant-a", "tenant-a", "tenant-b", "tenant-b", "tenant-b"] ∧
      runOnceWithBatchSize (taskPorts [d, other]) 8 ⟨cancelledStore d other, 0⟩ =
        (.error (.dispatch (.completion (.engine (.domain .alreadyCompleted)))), s₁, given) ∧ s₁.checkpoint = 1 ∧
      runOnceWithBatchSize (taskPorts [d, other]) 8 s₁ =
        (.error (.dispatch (.completion (.engine (.domain .alreadyCompleted)))), s₁, given) :=
  ⟨_,_,_,_,rfl,rfl,taskPorts_reliable _,rfl,rfl,rfl,rfl⟩

end BpmpPlatform
