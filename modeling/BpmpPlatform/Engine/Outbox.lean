import BpmpPlatform.Engine.EventReadable
import BpmpPlatform.Engine.Idempotency
import BpmpPlatform.Engine.Replay
import BpmpPlatform.Library.Joined

/-! # The outbox

The events of all streams in the order in which they were committed. The cursors have no gaps, and event ids differ
within a tenant.
-/
namespace BpmpPlatform
open Std Outcome WorkflowDefinition MemoryState AuthorizedCommand EventCodec Identifier List

variable {format : MessageFormat Wire.EventEnvelope} {store store' : MemoryState format} {x : Transaction format}

section Records

structure Publishes (r : OutboxRecord format) (e : EventEnvelope) : Prop where
  tenantId : r.tenantId = e.metadata.tenantId.value
  instanceId : r.instanceId = e.metadata.instanceId.value
  eventId : r.eventId = e.metadata.eventId
  correlationId : r.correlationId = e.metadata.correlationId.value
  causationCommandId : r.causationCommandId = e.metadata.causationCommandId.value
  payload : r.payload = EventCodec.encode format e

def MemoryState.published (store : MemoryState format) (key : StreamKey) : List (OutboxRecord format) :=
  store.outbox.filter fun r => r.tenantId == key.tenantId.value && r.instanceId == key.instanceId.value

def MemoryState.eventIds (store : MemoryState format) (tenantId : TenantId) : List String :=
  (store.outbox.filter fun r => r.tenantId == tenantId.value).map OutboxRecord.eventId

variable {c : CommitRequest} {tail index : Nat} {events : List EventEnvelope} {records : List (OutboxRecord format)}

/-- The records are numbered after the tail, and each publishes its event. -/
theorem outboxRecordsFrom_spec (h : c.outboxRecordsFrom format tail index events = .ok records) :
    records.map OutboxRecord.cursor = List.range' (tail + index + 1) records.length ∧
      (tail + index ≤ u64Max → tail + index + records.length ≤ u64Max) ∧
      ((∀ e ∈ events, e.metadata.tenantId = c.tenantId ∧ e.metadata.instanceId = c.instanceId) →
        List.Forall₂ Publishes records events) := by
  induction events generalizing index records with
  | nil =>
    cases h
    exact ⟨rfl,id,fun _ => .nil⟩
  | cons e events ih =>
    simp only [CommitRequest.outboxRecordsFrom, bind_eq_ok, ensure_eq_ok, decide_eq_true_eq] at h
    obtain ⟨_,hn,rest,hr,⟨⟩⟩ := h
    obtain ⟨hc,hb,hp⟩ := ih hr
    have hb := hb hn
    refine ⟨?_,fun _ => ?_,fun hkey => ?_⟩
    · rw [map_cons, hc, length_cons, List.range'_succ]
      rfl
    · rw [length_cons]
      omega
    · obtain ⟨⟨ht,hin⟩,hkey⟩ := forall_mem_cons.mp hkey
      exact .cons ⟨by rw [ht],by rw [hin],rfl,rfl,rfl,rfl⟩ (hp hkey)

theorem eventIdOf_inj {c c' : CommandId} {n m : Nat} (h : eventIdOf c n = eventIdOf c' m) : c = c' ∧ n = m := by
  have hl := congrArg String.toList h
  simp only [eventIdOf, String.toList_append, append_assoc] at hl
  obtain ⟨hv,hn⟩ := Joined.numbered_inj ':' (by decide) hl
  exact ⟨ext_value (String.toList_inj.mp hv),hn⟩

end Records

section Committed
variable {ports : EnginePorts} {definition : WorkflowDefinition} {request : AuthorizedCommand}
  (h : Commits ports definition request store x store')
include h

theorem Commits.metadata {e : EventEnvelope} (he : e ∈ x.envelopes) :
    e.metadata = metadataOf definition request x.principal.actorId x.configuration e.sequence e.event :=
  (attachFrom_spec h.attached).2.2 e he

theorem Commits.publishes : List.Forall₂ Publishes x.records x.envelopes :=
  (outboxRecordsFrom_spec h.checked.records).2.2 fun e he => by
    rw [h.metadata he]
    exact ⟨rfl,rfl⟩

/-- The new records belong to the instance and are named after the command. -/
theorem Commits.record {r : OutboxRecord format} (hr : r ∈ x.records) :
    r.tenantId = request.tenantId.value ∧ r.instanceId = request.instanceId.value ∧
      ∃ sequence, r.eventId = eventIdOf request.commandId sequence := by
  obtain ⟨e,he,hp⟩ := exists_of_forall₂ h.publishes hr
  refine ⟨?_,?_,e.sequence,?_⟩
  · rw [hp.tenantId, h.metadata he]; rfl
  · rw [hp.instanceId, h.metadata he]; rfl
  · rw [hp.eventId, h.metadata he]; rfl

theorem Commits.recordIds : x.records.map OutboxRecord.eventId =
    (x.envelopes.map EventEnvelope.sequence).map (eventIdOf request.commandId) := by
  have hids : x.records.map OutboxRecord.eventId = x.envelopes.map fun e => e.metadata.eventId :=
    Outcome.map_eq_of_forall₂ h.publishes fun _ _ hp => hp.eventId
  rw [hids, map_map]
  refine map_congr_left fun e he => ?_
  rw [h.metadata he]
  rfl

theorem Commits.recordIds_nodup : (x.records.map OutboxRecord.eventId).Nodup := by
  rw [h.recordIds, (attachFrom_spec h.attached).2.1]
  exact List.Nodup.map (fun _ _ heq => (eventIdOf_inj heq).2) nodup_range'

end Committed

structure WorkflowDefinition.TextsNamed (d : WorkflowDefinition) : Prop where
  nodes : ∀ entry ∈ d.nodes.toList, AllNamed entry.2.activationTexts ∧ AllNamed entry.2.completionTexts
  tables : ∀ entry ∈ d.decisionTables.toList, AllNamed (entry.2.outputs.map DecisionOutput.name)
  boundaries : ∀ entry ∈ d.boundaryEventMap.toList, ∀ b ∈ entry.2, AllNamed b.trigger.texts
  iterations : ∀ entry ∈ d.nodeMetadata.toList,
    AllNamed (entry.2.multiInstance.bind MultiInstanceDefinition.itemVariable).toList

theorem allNamed_lookup {K V : Type} [Ord K] [TransOrd K] [LawfulEqOrd K] {m : ExtTreeMap K V} {texts : V → List String}
    (h : ∀ entry ∈ m.toList, AllNamed (texts entry.2)) (k : K) : AllNamed ((m[k]?.map texts).getD []) := by
  cases hk : m[k]? with
  | none => simp [AllNamed]
  | some v => exact h (k, v) (ExtTreeMap.mem_toList_iff_getElem?_eq_some.mpr hk)

theorem WorkflowDefinition.TextsNamed.eventTexts {d : WorkflowDefinition} (h : d.TextsNamed) (e : DomainEvent) :
    AllNamed (d.eventTexts e) := by
  cases e with
  | userTaskActivated nodeId => exact allNamed_lookup (fun entry he => (h.nodes entry he).1) nodeId
  | scriptTaskActivated nodeId => exact allNamed_lookup (fun entry he => (h.nodes entry he).1) nodeId
  | userTaskCompleted nodeId => exact allNamed_lookup (fun entry he => (h.nodes entry he).2) nodeId
  | decisionTaskEvaluated _ tableId => exact allNamed_lookup h.tables tableId
  | boundaryEventArmed boundaryId =>
    simp only [WorkflowDefinition.eventTexts]
    cases hb : d.boundaryEvent boundaryId with
    | none => simp [AllNamed]
    | some =>
      obtain ⟨entry,he,hf⟩ := exists_of_findSome?_eq_some hb
      obtain ⟨b,hfi,rfl⟩ := Option.map_eq_some_iff.mp hf
      exact h.boundaries entry he b (mem_of_find?_eq_some hfi)
  | multiInstanceStarted nodeId =>
    simp only [WorkflowDefinition.eventTexts, multiInstance]
    cases hm : d.nodeMetadata[nodeId]? with
    | none => simp [AllNamed]
    | some => exact h.iterations _ (ExtTreeMap.mem_toList_iff_getElem?_eq_some.mpr hm)
  | _ => simp [WorkflowDefinition.eventTexts, AllNamed]

section Serialized
variable {log : CallLog}

structure Serialized (store : MemoryState format) : Prop where
  cursors : Log.Numbered OutboxRecord.cursor store.outbox
  streams : ∀ key, List.Forall₂ Publishes (store.published key) (store.stream key)
  audited : ∀ r ∈ store.outbox, ∃ (tenantId : TenantId) (commandId : CommandId) (sequence : Nat),
    r.tenantId = tenantId.value ∧ r.eventId = eventIdOf commandId sequence ∧
      store.authorizationAudits[(⟨tenantId, commandId⟩ : AuthorizationAuditKey)]? ≠ none
  unique : ∀ tenantId, (store.eventIds tenantId).Nodup

theorem Serialized.congr (h : Serialized store) (hobs : Observes store store') : Serialized store' := by
  refine ⟨hobs.outbox ▸ h.cursors,?_,?_,?_⟩
  · intro key
    rw [published, hobs.outbox, hobs.stream]
    exact h.streams key
  · rw [hobs.outbox, hobs.authorizationAudits]
    exact h.audited
  · intro tenantId
    rw [eventIds, hobs.outbox]
    exact h.unique tenantId

variable {c : Call} {e : EventEnvelope}

theorem Serialized.commit (h : Serialized store) {ports : EnginePorts} {definition : WorkflowDefinition}
    {request : AuthorizedCommand} (hx : Commits ports definition request store x store') : Serialized store' := by
  refine ⟨?_,?_,?_,?_⟩
  · rw [hx.outbox]
    exact h.cursors.append (outboxRecordsFrom_spec hx.checked.records).1
  · intro key
    rw [published, hx.outbox, filter_append, hx.stream]
    by_cases hkey : request.streamKey = key
    · subst hkey
      have hall : x.records.filter (fun r => r.tenantId == request.streamKey.tenantId.value &&
          r.instanceId == request.streamKey.instanceId.value) = x.records := by
        refine filter_eq_self.mpr fun r hr => ?_
        obtain ⟨ht,hi,_⟩ := hx.record hr
        simp [ht, hi, streamKey]
      rw [if_pos rfl, hall]
      exact rel_append (h.streams _) hx.publishes
    · have hn : x.records.filter (fun r => r.tenantId == key.tenantId.value &&
          r.instanceId == key.instanceId.value) = [] := by
        refine filter_eq_nil_iff.mpr fun r hr hb => hkey ?_
        obtain ⟨ht,hi,_⟩ := hx.record hr
        rw [Bool.and_eq_true, beq_iff_eq, beq_iff_eq] at hb
        rw [streamKey, ext_value (ht.symm.trans hb.1), ext_value (hi.symm.trans hb.2)]
      rw [if_neg hkey, hn, append_nil]
      exact h.streams key
  · intro r hr
    rw [hx.outbox] at hr
    rcases mem_append.mp hr with hold | hnew
    · obtain ⟨tenantId,commandId,sequence,ht,hid,ha⟩ := h.audited r hold
      refine ⟨tenantId,commandId,sequence,ht,hid,?_⟩
      rw [hx.authorizationAudits]
      split
      · simp
      · exact ha
    · obtain ⟨ht,_,sequence,hid⟩ := hx.record hnew
      refine ⟨request.tenantId,request.commandId,sequence,ht,hid,?_⟩
      rw [hx.authorizationAudits]
      simp [auditKey]
  · intro tenantId
    rw [eventIds, hx.outbox, filter_append, map_append, nodup_append]
    refine ⟨h.unique tenantId,(filter_sublist.map _).nodup hx.recordIds_nodup,?_⟩
    rintro id hid _ hid' rfl
    obtain ⟨r,hr,rfl⟩ := mem_map.mp hid
    obtain ⟨r',hr',heq⟩ := mem_map.mp hid'
    rw [mem_filter, beq_iff_eq] at hr hr'
    obtain ⟨tenantId₀,commandId,sequence,ht,hna,ha⟩ := h.audited r hr.1
    obtain ⟨ht',_,sequence',hn'⟩ := hx.record hr'.1
    -- a shared id means a shared command, whose audit key was free before the commit
    obtain ⟨rfl,_⟩ := eventIdOf_inj (hn'.symm.trans (heq.trans hna))
    have hten : tenantId₀ = request.tenantId :=
      ext_value (ht.symm.trans (hr.2.trans (hr'.2.symm.trans ht')))
    subst hten
    exact ha hx.checked.audit

theorem Handled.serialized (h : Handled log store) : Serialized store := by
  induction h with
  | start => exact ⟨.nil,fun _ => .nil,by simp,fun _ => .nil⟩
  | call _ hc ih =>
    rcases handle_effect hc with hobs | ⟨x,hx⟩
    · exact ih.congr hobs
    · exact ih.commit hx

theorem Handled.outbox_bounded (h : Handled log store) : store.outbox.length ≤ u64Max := by
  induction h with
  | start => exact Nat.zero_le _
  | call _ hc ih =>
    rcases handle_effect hc with hobs | ⟨x,hx⟩
    · rw [hobs.outbox]
      exact ih
    · rw [hx.outbox, length_append]
      exact (outboxRecordsFrom_spec hx.checked.records).2.1 ih

structure Audited (log : CallLog) (store : MemoryState format) : Prop where
  written : WrittenOnce ((committedCalls log).map fun c => c.request.auditKey) store.authorizationAudits
  audit : ∀ c ∈ committedCalls log, ∃ principal configuration,
    c.ports.authorize (authorizationRequestOf c.definition c.request) = .ok principal ∧
      store.authorizationAudits[c.request.auditKey]? =
        some (buildAuthorizationAudit c.definition c.request configuration principal)

theorem Audited.skip (h : Audited log store) {entry : Call × Except EngineError HandleOutcome}
    (he : committed? entry = none) (hs : store'.authorizationAudits = store.authorizationAudits) :
    Audited (log ++ [entry]) store' := by
  have hca : committedCalls (log ++ [entry]) = committedCalls log := by
    rw [committedCalls_append, he, Option.toList_none, append_nil]
  exact ⟨by rw [hca, hs]; exact h.written,by rw [hca, hs]; exact h.audit⟩

theorem Audited.commit (h : Audited log store) (hx : Commits c.ports c.definition c.request store x store') :
    Audited (log ++ [(c, .ok (.committed x.result))]) store' := by
  have hca : committedCalls (log ++ [(c, .ok (.committed x.result))]) = committedCalls log ++ [c] :=
    committedCalls_append log _
  have hf : store.authorizationAudits[c.request.auditKey]? = none := hx.checked.audit
  refine ⟨?_,?_⟩
  · rw [hca, map_append]
    exact h.written.write hf hx.authorizationAudits
  · intro c' hc'
    rw [hca] at hc'
    rw [hx.authorizationAudits]
    rcases mem_append.mp hc' with hold | hnew
    · obtain ⟨principal,configuration,hau,ha⟩ := h.audit c' hold
      refine ⟨principal,configuration,hau,?_⟩
      rw [if_neg, ha]
      intro heq
      rw [heq, ha] at hf
      cases hf
    · rw [mem_singleton.mp hnew, if_pos rfl]
      exact ⟨x.principal,x.configuration,hx.authorized,rfl⟩

theorem Handled.audited (h : Handled log store) : Audited log store := by
  induction h with
  | start => exact ⟨.empty,fun c hc => by simp [committedCalls] at hc⟩
  | call _ hc ih =>
    rcases handle_cases hc with ⟨_,rfl,hobs⟩ | ⟨_,_,rfl,rfl,_⟩ | ⟨x,rfl,hx,_⟩
    · exact ih.skip rfl hobs.authorizationAudits
    · exact ih.skip rfl rfl
    · exact ih.commit hx

def Emitted (c : Call) (e : EventEnvelope) : Prop :=
  c.request.tenantId = c.definition.tenantId ∧ ∃ s actorId configuration sequence events,
    decideEvents c.definition s c.request.command (configuration.context c.request) = .ok events ∧
      e.event ∈ events ∧ e.metadata = metadataOf c.definition c.request actorId configuration sequence e.event

theorem Commits.emitted (hx : Commits c.ports c.definition c.request store x store')
    (he : e ∈ x.envelopes) : Emitted c e := by
  obtain ⟨hes,_,hm⟩ := attachFrom_spec hx.attached
  exact ⟨hx.tenant,_,_,_,_,_,hx.decided,hes ▸ mem_map_of_mem he,hm e he⟩

theorem Handled.emitted (h : Handled log store) {key : StreamKey} (he : e ∈ store.stream key) :
    ∃ entry ∈ log, Emitted entry.1 e := by
  induction h with
  | start => simp [stream] at he
  | @call log store store' c outcome _ hc ih =>
    have hold (he : e ∈ store.stream key) : ∃ entry ∈ log ++ [(c, outcome)], Emitted entry.1 e := by
      obtain ⟨entry,hent,hem⟩ := ih he
      exact ⟨entry,mem_append_left _ hent,hem⟩
    rcases handle_effect hc with hobs | ⟨x,hx⟩
    · exact hold (hobs.stream key ▸ he)
    · rw [hx.stream] at he
      split at he
      · rcases mem_append.mp he with he | he
        · exact hold he
        · exact ⟨(c, outcome),by simp,hx.emitted he⟩
      · exact hold he

/-- The events of such a call can be read back: its definition is an accepted one without blank texts, and
its command is one the transport admits. -/
structure Call.Readable (c : Call) : Prop where
  accepted : c.definition.Accepted
  admitted : c.request.command.Admitted
  texts : c.definition.TextsNamed

theorem Emitted.metadataFits (h : Emitted c e)
    (hag : EventCodec.tenantAgrees c.definition.tenantId e.event = true) : EventCodec.MetadataFits e := by
  obtain ⟨ht,_,_,_,_,_,_,_,hm⟩ := h
  refine ⟨by rw [hm]; rfl,by rw [hm]; rfl,?_⟩
  rw [hm, metadataOf, ht]
  exact hag

theorem Emitted.readable (h : Emitted c e) (hc : c.Readable) : decode format (encode format e) = .ok e := by
  obtain ⟨_,_,_,_,_,_,hdec,hin,_⟩ := id h
  obtain ⟨hle,hag⟩ := decideEvents_carried hc.accepted hc.admitted hdec e.event hin
  exact (EventCodec.decode_encode_iff format (h.metadataFits hag)).mpr
    (hle.mpr (hc.texts.eventTexts e.event))

theorem Handled.readable (h : Handled log store) (hlog : ∀ entry ∈ log, entry.1.Readable) (key : StreamKey) :
    ∀ e ∈ store.stream key, decode format (encode format e) = .ok e := by
  intro e he
  obtain ⟨entry,hent,hem⟩ := h.emitted he
  exact hem.readable (hlog entry hent)

/-- After any sequence of calls the cursors of the outbox are 1, …, n, its records of an instance publish
the events of that stream in their order, event ids are unique within a tenant, the audits are those of the
committed commands, one each, and a failing call leaves no trace. If every call can be read back, so can
every payload. -/
theorem outbox_serializes_streams (h : Handled log store) :
    store.outbox.map OutboxRecord.cursor = List.range' 1 store.outbox.length ∧
    (∀ key, List.Forall₂ Publishes (store.published key) (store.stream key)) ∧
    ((∀ entry ∈ log, entry.1.Readable) → ∀ key,
      List.Forall₂ (fun r e => EventCodec.decode format r.payload = .ok e) (store.published key) (store.stream key)) ∧
    (∀ tenantId, (store.eventIds tenantId).Nodup) ∧
    WrittenOnce ((committedCalls log).map fun c => c.request.auditKey) store.authorizationAudits ∧
    (∀ c ∈ committedCalls log, ∃ principal configuration,
      c.ports.authorize (authorizationRequestOf c.definition c.request) = .ok principal ∧
        store.authorizationAudits[c.request.auditKey]? =
          some (buildAuthorizationAudit c.definition c.request configuration principal)) ∧
    ∀ (c : Call) error store', handle c.ports c.definition c.request store = (.error error, store') →
      Observes store store' := by
  have hs := h.serialized
  refine ⟨hs.cursors,hs.streams,?_,hs.unique,h.audited.written,h.audited.audit,?_⟩
  · intro hlog key
    have hr := h.readable hlog key
    refine Log.forall₂_imp_of_mem (hs.streams key) fun r e he hp => ?_
    rw [hp.payload]
    exact hr e he
  · intro c error store' hc
    rcases handle_cases hc with ⟨_,_,hobs⟩ | ⟨_,_,hdup,_⟩ | ⟨x,hco,_⟩
    · exact hobs
    · cases hdup
    · cases hco

end Serialized

namespace Sample

def chargeCalls (definition : WorkflowDefinition) : List Call := [⟨ports everyEight, definition, start⟩]

end Sample

open Sample

theorem outbox_serializes_streams_charge :
    ∃ d, WirLoader.mapDefinition .insertion (chargeWir "declined") = .ok d ∧
      ((handleAll (.plain _) (chargeCalls d)).2.published ⟨.lit "tenant-a", .lit "instance-1"⟩).length = 3 ∧
      List.Forall₂ (fun r e => EventCodec.decode (.plain _) r.payload = .ok e)
        ((handleAll (.plain _) (chargeCalls d)).2.published ⟨.lit "tenant-a", .lit "instance-1"⟩)
        ((handleAll (.plain _) (chargeCalls d)).2.stream ⟨.lit "tenant-a", .lit "instance-1"⟩) := by
  obtain ⟨d,hl,hlen,htx,hca⟩ : ∃ d,
      WirLoader.mapDefinition .insertion (chargeWir "declined") = .ok d ∧
      ((handleAll (.plain _) (chargeCalls d)).2.published ⟨.lit "tenant-a", .lit "instance-1"⟩).length = 3 ∧
      d.TextsNamed ∧ (handleAll (.plain _) (chargeCalls d)).1.map Prod.fst = chargeCalls d :=
    ⟨_,rfl,rfl,⟨by decide,by decide,by decide,by decide⟩,rfl⟩
  refine ⟨d,hl,hlen,?_⟩
  refine (outbox_serializes_streams (handled_handleAll (.plain _) (chargeCalls d))).2.2.1 ?_ _
  intro entry he
  have hc : entry.1 ∈ chargeCalls d := hca ▸ mem_map_of_mem he
  rw [mem_singleton.mp hc]
  exact ⟨mapDefinition_accepted hl,trivial,htx⟩

/-- The record of a boundary event with a blank error reference is not read back as the event of the stream. -/
theorem published_record_misread :
    ∃ d r₁ r₂ r₃ e₁ e₂ e₃, WirLoader.mapDefinition .insertion (chargeWir " ") = .ok d ∧
      (handleAll (.plain _) (chargeCalls d)).2.published ⟨.lit "tenant-a", .lit "instance-1"⟩ = [r₁, r₂, r₃] ∧
      (handleAll (.plain _) (chargeCalls d)).2.stream ⟨.lit "tenant-a", .lit "instance-1"⟩ = [e₁, e₂, e₃] ∧
      EventCodec.decode (.plain _) r₃.payload ≠ .ok e₃ :=
  ⟨_,_,_,_,_,_,_,rfl,rfl,rfl,by decide⟩

end BpmpPlatform
