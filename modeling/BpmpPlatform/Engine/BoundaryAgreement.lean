import BpmpPlatform.Engine.BoundaryProjection

/-! # Runs of the engine with its boundary projection

Calls and projection passes in any order. What has been projected of a stream gives the subscriptions of the state at
the end of its last projected decision.
-/
namespace BpmpPlatform
open Std Outcome List

variable {format : MessageFormat Wire.EventEnvelope} {log : CallLog} {store store' : MemoryState format}
  {key : StreamKey} {c : Call}

section Runs

theorem Handled.eq_handleAll (h : Handled log store) : handleAll format (log.map Prod.fst) = (log, store) := by
  induction h with
  | start => rfl
  | call _ hc ih =>
    rw [map_append, handleAll, foldl_append, ← handleAll, ih]
    simp only [map_cons, map_nil, foldl_cons, foldl_nil, hc]

theorem Handled.outbox_take {before : CallLog} {store₀ : MemoryState format} (h₀ : Handled before store₀)
    {later : CallLog} (h : Handled (before ++ later) store) :
    store.outbox.take store₀.outbox.length = store₀.outbox := by
  have hrun := h.eq_handleAll
  rw [map_append, handleAll, foldl_append, ← handleAll, h₀.eq_handleAll] at hrun
  have hs : _ = store := congrArg Prod.snd hrun
  refine (prefix_iff_eq_take.mp ?_).symm
  rw [← hs]
  generalize later.map Prod.fst = calls
  clear hs hrun h h₀
  induction calls generalizing before store₀ with
  | nil => exact prefix_rfl
  | cons c calls ih =>
    refine .trans ?_ ih
    rcases handle_effect (Prod.eta (handle c.ports c.definition c.request store₀)).symm with hobs | ⟨x,hx⟩
    · exact hobs.outbox ▸ prefix_rfl
    · exact ⟨_,hx.outbox.symm⟩

end Runs

def OneDefinition (log : CallLog) : Prop :=
  ∀ a ∈ log, ∀ b ∈ log, a.1.definition.tenantId = b.1.definition.tenantId →
    a.1.definition.workflowType = b.1.definition.workflowType →
    a.1.definition.workflowVersion = b.1.definition.workflowVersion → a.1.definition = b.1.definition

theorem OneDefinition.mono {log log' : CallLog} (h : OneDefinition log') (hsub : ∀ entry ∈ log, entry ∈ log') :
    OneDefinition log :=
  fun a ha b hb => h a (hsub a ha) b (hsub b hb)

section Streams

variable {d : WorkflowDefinition} {x : Transaction format}

structure WrittenUnder (store : MemoryState format) (key : StreamKey) (d : WorkflowDefinition) : Prop where
  tenant : d.tenantId = key.tenantId
  events : ∀ e ∈ store.stream key,
    e.metadata.workflowType = d.workflowType ∧ e.metadata.workflowVersion = d.workflowVersion
  snapshot : ∀ snapshot, store.snapshots[key]? = some snapshot →
    snapshot.workflowType = d.workflowType ∧ snapshot.workflowVersion = d.workflowVersion
  history : ∃ batches, History d (rehydrate none (store.history key)) batches ∧
    batches.flatten = store.history key

theorem WrittenUnder.congr (h : WrittenUnder store key d) (hs : store'.stream key = store.stream key)
    (hsn : store'.snapshots[key]? = store.snapshots[key]?) : WrittenUnder store' key d := by
  refine ⟨h.tenant,hs ▸ h.events,hsn ▸ h.snapshot,?_⟩
  rw [MemoryState.history, hs]
  exact h.history

/-- A stream with events was written under the definition of a call, and only such a stream has a snapshot. -/
structure Written (log : CallLog) (store : MemoryState format) (key : StreamKey) : Prop where
  under : store.stream key ≠ [] → ∃ entry ∈ log, WrittenUnder store key entry.1.definition
  snapshot : store.stream key = [] → store.snapshots[key]? = none

theorem Commits.same_definition (hx : Commits c.ports c.definition c.request store x store')
    (hr : Replayable store c.request.streamKey) (hne : store.stream c.request.streamKey ≠ [])
    (hd : WrittenUnder store c.request.streamKey d) :
    d.workflowType = c.definition.workflowType ∧ d.workflowVersion = c.definition.workflowVersion := by
  obtain ⟨loaded,hl,hs,hes,_,_⟩ := hr.load_eq
  have hlo : x.loaded = loaded := Except.ok.inj (hx.loaded.symm.trans hl)
  have hma := hx.matched
  simp only [checkWorkflow, hlo, bind_eq_ok, ensure_eq_ok, all_eq_true, Option.all_eq_true,
    Bool.and_eq_true, beq_iff_eq] at hma
  obtain ⟨_,hsn,hall⟩ := hma
  cases hget : loaded.snapshot with
  | some snapshot =>
    obtain ⟨ht,hv⟩ := hd.snapshot snapshot (hs ▸ hget)
    obtain ⟨ht',hv'⟩ := hsn snapshot hget
    exact ⟨ht.symm.trans ht',hv.symm.trans hv'⟩
  | none =>
    rw [hget, Option.map_none, Option.getD_none, drop_zero] at hes
    obtain ⟨e,he⟩ := exists_mem_of_ne_nil _ hne
    obtain ⟨ht,hv⟩ := hd.events e he
    obtain ⟨ht',hv'⟩ := hall e (hes ▸ he)
    exact ⟨ht.symm.trans ht',hv.symm.trans hv'⟩

theorem WrittenUnder.commit (hx : Commits c.ports c.definition c.request store x store')
    (hr : Replayable store c.request.streamKey) (h : WrittenUnder store c.request.streamKey c.definition) :
    WrittenUnder store' c.request.streamKey c.definition := by
  have hs : store'.stream c.request.streamKey = store.stream c.request.streamKey ++ x.envelopes := by
    rw [hx.stream, if_pos rfl]
  obtain ⟨batches,hhi,hf⟩ := h.history
  refine ⟨h.tenant,?_,?_,batches ++ [x.events],?_,?_⟩
  · rw [hs]
    refine forall_mem_append.mpr ⟨h.events,fun e he => ?_⟩
    rw [hx.metadata he]
    exact ⟨rfl,rfl⟩
  · intro snapshot hget
    rw [hx.snapshots, if_pos rfl] at hget
    cases hnew : snapshotAtLatestBoundary c.definition c.request x.configuration x.loaded.state x.envelopes with
    | none => exact h.snapshot snapshot (by rw [hnew] at hget; exact hget)
    | some =>
      rw [hnew, Option.some_or, Option.some.injEq] at hget
      subst hget
      obtain ⟨_,_,hat⟩ := exists_cutsAt_of_snapshot hnew
      rw [hat.snapshot_eq, Option.some.injEq] at hnew
      rw [← hnew]
      exact ⟨rfl,rfl⟩
  · have hd := hx.decided
    rw [(hx.loaded_eq hr).2] at hd
    have hst := History.step hhi hd
    rw [MemoryState.history, hs, map_append, (attachFrom_spec hx.attached).1, rehydrate, foldl_append]
    exact hst
  · rw [flatten_append, flatten_singleton, hf, MemoryState.history, MemoryState.history, hs,
      map_append, (attachFrom_spec hx.attached).1]

theorem WrittenUnder.fresh (hs : store.stream key = []) (hsn : store.snapshots[key]? = none)
    (ht : d.tenantId = key.tenantId) : WrittenUnder store key d := by
  refine ⟨ht,by rw [hs]; simp,by rw [hsn]; simp,[],?_,?_⟩
  · rw [MemoryState.history, hs]
    exact .initial
  · rw [MemoryState.history, hs]
    rfl

theorem Handled.written (h : Handled log store) (hone : OneDefinition log) (key : StreamKey) :
    Written log store key := by
  induction h with
  | start => exact ⟨fun hne => absurd rfl hne,fun _ => by simp⟩
  | @call log store store' c outcome h hc ih =>
    have hold := ih (hone.mono fun entry he => mem_append_left _ he)
    have hk (hs : store'.stream key = store.stream key) (hsn : store'.snapshots[key]? = store.snapshots[key]?) :
        Written (log ++ [(c, outcome)]) store' key := by
      refine ⟨fun hne => ?_,fun hem => ?_⟩
      · obtain ⟨entry,he,hun⟩ := hold.under (hs ▸ hne)
        exact ⟨entry,mem_append_left _ he,hun.congr hs hsn⟩
      · rw [hsn]
        exact hold.snapshot (hs ▸ hem)
    rcases handle_effect hc with hobs | ⟨x,hx⟩
    · exact hk (hobs.stream key) (by rw [hobs.snapshots])
    · by_cases hkey : c.request.streamKey = key
      · subst hkey
        have hr := h.replayable c.request.streamKey
        have ht : c.definition.tenantId = c.request.streamKey.tenantId := hx.tenant.symm
        have hun : WrittenUnder store c.request.streamKey c.definition := by
          by_cases hne : store.stream c.request.streamKey = []
          · exact .fresh hne (hold.snapshot hne) ht
          · obtain ⟨entry,he,hd⟩ := hold.under hne
            obtain ⟨hty,hv⟩ := hx.same_definition hr hne hd
            have heq : entry.1.definition = c.definition :=
              hone entry (mem_append_left _ he) (c, outcome) (by simp) (hd.tenant.trans ht.symm) hty
                hv
            rw [← heq]
            exact hd
        have hn := hun.commit hx hr
        refine ⟨fun _ => ⟨(c, outcome),by simp,hn⟩,fun hem => ?_⟩
        -- no event, hence no snapshot either
        rw [hx.stream, if_pos rfl, append_eq_nil_iff] at hem
        rw [hx.snapshots, if_pos rfl, hold.snapshot hem.1, hem.2]
        rfl
      · exact hk (by rw [hx.stream, if_neg hkey]) (by rw [hx.snapshots, if_neg hkey])

/-- Projecting the whole stream of an instance gives the subscriptions of its state. -/
theorem Handled.projects (h : Handled log store) (hone : OneDefinition log) (key : StreamKey) :
    (store.history key).foldl projectEvent ∅ = (rehydrate none (store.history key)).activeBoundarySubscriptions := by
  by_cases he : store.stream key = []
  · rw [MemoryState.history, he]
    rfl
  · obtain ⟨entry,_,hun⟩ := (h.written hone key).under he
    obtain ⟨batches,hhi,hf⟩ := hun.history
    rw [← hhi.projects.1, hf]

end Streams

def WorkflowDefinition.ErrorRefsNamed (d : WorkflowDefinition) : Prop :=
  ∀ (n : NodeId), ∀ b ∈ d.boundaryEvents n, b.trigger.errorRefNamed = true

theorem errorRefsNamed_of_map {d : WorkflowDefinition}
    (h : ∀ entry ∈ d.boundaryEventMap.toList, ∀ b ∈ entry.2, b.trigger.errorRefNamed = true) : d.ErrorRefsNamed := by
  intro n b hb
  rw [WorkflowDefinition.boundaryEvents] at hb
  cases hn : d.boundaryEventMap[n]? with
  | none => rw [hn] at hb; cases hb
  | some boundaries =>
    rw [hn] at hb
    exact h (n, boundaries) (ExtTreeMap.mem_toList_iff_getElem?_eq_some.mpr hn) b hb

section Reading

variable {store : MemoryState format} {e : EventEnvelope} {r : OutboxRecord format}
  {record : BoundaryProjectionRecord}

theorem Emitted.errorRefNamed (h : Emitted c e) (hc : c.definition.ErrorRefsNamed) : e.event.ErrorRefNamed := by
  obtain ⟨_,_,_,_,_,_,hdec,hin,_⟩ := h
  rcases decideEvents_continuesIn hdec hin with hcon | ⟨_,hs⟩
  · cases hev : e.event with
    | boundaryEventArmed =>
      rw [hev] at hcon
      obtain ⟨b,hb,rfl⟩ := hcon
      exact hc _ b hb
    | _ => trivial
  · rw [hs]
    trivial

theorem projectionRecord_streamKey (h : projectionRecord r = .ok record) : record.envelope.streamKey = key ↔
      (r.tenantId == key.tenantId.value && r.instanceId == key.instanceId.value) = true := by
  simp only [projectionRecord, bind_eq_ok, ensure_eq_ok, Bool.and_eq_true, beq_iff_eq] at h
  obtain ⟨envelope,_,_,⟨⟨_,ht⟩,hin⟩,⟨⟩⟩ := h
  rw [← ht, ← hin, Bool.and_eq_true, beq_iff_eq, beq_iff_eq]
  cases key
  simp only [EventEnvelope.streamKey, StreamKey.mk.injEq]
  exact ⟨fun heq => ⟨by rw [heq.1],by rw [heq.2]⟩,fun heq => ⟨Identifier.ext_value heq.1,Identifier.ext_value heq.2⟩⟩

theorem Emitted.tenantAgrees (h : Emitted c e) : EventCodec.tenantAgrees e.metadata.tenantId e.event = true := by
  obtain ⟨ht,_,_,_,_,_,hdec,hin,hm⟩ := h
  have hid : e.metadata.tenantId = c.definition.tenantId := by rw [hm, ← ht]; rfl
  rcases decideEvents_continuesIn hdec hin with hc | ⟨_,hs⟩
  · cases hev : e.event with
    | workflowStarted => rw [hev] at hc; exact hc.elim
    | _ => rfl
  · rw [hs, hid]
    exact beq_self_eq_true _

/-- Reading a record of the engine gives its event as the codec reads it back, with the metadata it had. -/
theorem projectionRecord_eq_ok (hp : Publishes r e) (he : Emitted c e) :
    projectionRecord r = .ok record ↔
      ∃ event, EventCodec.eventFromWire (eventTime e.event) (eventToWire e.event) = .ok event ∧
        record = ⟨r.cursor, e.metadata, event⟩ := by
  have hag := he.tenantAgrees
  obtain ⟨_,_,_,_,_,_,_,_,hm⟩ := he
  have hsc : e.metadata.schemaVersion = eventSchemaVersion := by rw [hm]; rfl
  have hti : e.metadata.occurredAtEpochMs = eventTime e.event := by rw [hm]; rfl
  simp only [projectionRecord, bind_eq_ok, mapError_eq_ok, pure_eq_ok, hp.payload, ensure_eq_ok,
    EventCodec.decode_encode format hsc, EventCodec.envelopeFromWire_toWire hsc, hti]
  constructor
  · rintro ⟨_,⟨event,hev,_,_,rfl⟩,_,_,rfl⟩; exact ⟨event,hev,rfl⟩
  · rintro ⟨event,hev,rfl⟩
    refine ⟨_,⟨event,hev,(),?_,rfl⟩,(),?_,rfl⟩
    · rcases EventCodec.eventFromWire_read hev with ⟨_,_,_,_,_,_,_,_,rfl,_⟩ | ⟨_,_,ht,_⟩
      · rfl
      · rw [ht]
        exact hag
    · simp [hp.eventId, hp.tenantId, hp.instanceId]

/-- The records of an outbox, projected into an instance, do what the events of its stream do. -/
theorem foldl_projectRecord {outbox : List (OutboxRecord format)} {records : List BoundaryProjectionRecord}
    {stream : List EventEnvelope} (h : List.Forall₂ (fun r record => projectionRecord r = .ok record) outbox records)
    (hp : List.Forall₂ Publishes (outbox.filter fun r =>
      r.tenantId == key.tenantId.value && r.instanceId == key.instanceId.value) stream)
    (he : ∀ e ∈ stream, e.event.ErrorRefNamed ∧ ∃ c, Emitted c e) (subs : Subscriptions) :
    records.foldl (projectRecord key) subs = (stream.map EventEnvelope.event).foldl projectEvent subs := by
  induction h generalizing stream subs with
  | nil => cases hp; rfl
  | @cons r record outbox records hr _ ih =>
    rw [foldl_cons, projectRecord]
    by_cases hof : (r.tenantId == key.tenantId.value && r.instanceId == key.instanceId.value) = true
    · rw [filter_cons, if_pos hof] at hp
      obtain ⟨e,stream,hpub,hre,rfl⟩ := forall₂_cons_left_iff.mp hp
      obtain ⟨hn,c,hem⟩ := he e (by simp)
      rw [if_pos ((projectionRecord_streamKey hr).mpr hof), ih hre fun e he' => he e (mem_cons_of_mem _ he')]
      obtain ⟨event,hev,rfl⟩ := (projectionRecord_eq_ok hpub hem).mp hr
      rw [EventCodec.projectEvent_read hn hev]
      rfl
    · rw [filter_cons, if_neg hof] at hp
      rw [if_neg (mt (projectionRecord_streamKey hr).mp hof)]
      exact ih hp he subs

end Reading

/-- Calls and passes of the projector, each pass under a policy of its own, from empty stores on. A pass
that fails changes nothing. -/
inductive Projecting (rfc3339 : String → Option Int) {format : MessageFormat Wire.EventEnvelope} :
    CallLog → MemoryState format → MemoryBoundaryState → Prop
  | start : Projecting rfc3339 [] {} {}
  | call {log store store' b c outcome} (h : Projecting rfc3339 log store b)
      (hc : handle c.ports c.definition c.request store = (outcome, store')) :
      Projecting rfc3339 (log ++ [(c, outcome)]) store' b
  | project {log store b b' policy outcome} (h : Projecting rfc3339 log store b)
      (hp : projectOnce rfc3339 policy store b = .ok (outcome, b')) : Projecting rfc3339 log store b'

section Projecting

variable {rfc3339 : String → Option Int} {b b' : MemoryBoundaryState}

theorem Projecting.handled (h : Projecting rfc3339 log store b) : Handled log store := by
  induction h with
  | start => exact .start
  | call _ hc ih => exact ih.call hc
  | project _ _ ih => exact ih

theorem projecting_of_handled (h : Handled log store) : Projecting rfc3339 log store {} := by
  induction h with
  | start => exact .start
  | call _ hc ih => exact ih.call hc

structure Caught (store : MemoryState format) (b : MemoryBoundaryState) : Prop where
  checkpoint : b.projectionCheckpoint ≤ store.outbox.length
  projected : ∃ records, List.Forall₂ (fun r record => projectionRecord r = .ok record)
      (store.outbox.take b.projectionCheckpoint) records ∧
    ∀ key, Mirrors b key (records.foldl (projectRecord key) ∅)

theorem Caught.outbox {added : List (OutboxRecord format)} (h : Caught store b)
    (hs : store'.outbox = store.outbox ++ added) : Caught store' b := by
  refine ⟨?_,?_⟩
  · rw [hs, length_append]
    have := h.checkpoint
    omega
  · rw [hs, take_append_of_le_length h.checkpoint]
    exact h.projected

theorem Caught.project (hn : Log.Numbered OutboxRecord.cursor store.outbox) (hbd : store.outbox.length ≤ u64Max)
    (h : Caught store b) {policy : BoundaryRuntimePolicy} {outcome : ProjectionOutcome}
    (hp : projectOnce rfc3339 policy store b = .ok (outcome, b')) : Caught store b' := by
  obtain ⟨_,records,mutations,hrs,hm,_,rfl⟩ := (projectOnce_eq_ok hn hbd).mp hp
  obtain ⟨before,hb,hmi⟩ := h.projected
  have hl := hrs.length_eq
  have hle := h.checkpoint
  rw [projectionWindow, length_take, length_drop] at hl
  have ht : store.outbox.take (b.projectionCheckpoint + records.length) =
      store.outbox.take b.projectionCheckpoint ++ projectionWindow store policy b := by
    rw [take_add, projectionWindow, ← hl, ← length_drop, ← take_eq_take_min]
  refine ⟨?_,before ++ records,?_,fun key => ?_⟩
  · show b.projectionCheckpoint + records.length ≤ store.outbox.length
    omega
  · rw [MemoryBoundaryState.advanced, ht]
    exact rel_append hb hrs
  · rw [foldl_append]
    exact projectionMutations_mirrors hm (hmi key)

theorem Projecting.caught (h : Projecting rfc3339 log store b) : Caught store b := by
  induction h with
  | start => exact ⟨Nat.le_refl _,[],.nil,fun _ _ => by simp⟩
  | call _ hc ih =>
    rcases handle_effect hc with hobs | ⟨x,hx⟩
    · exact ih.outbox (hobs.outbox.trans (append_nil _).symm)
    · exact ih.outbox hx.outbox
  | project h hp ih => exact ih.project h.handled.serialized.cursors h.handled.outbox_bounded hp

/-- However calls and passes alternate and however the passes cut the outbox into batches: once the
projection has caught up with a state of the engine between two calls, the subscriptions it holds of each
instance are those of that state. -/
theorem projection_follows_engine {store₀ : MemoryState format} (h₀ : Handled log store₀) (later : CallLog)
    (h : Projecting rfc3339 (log ++ later) store b) (hcaught : b.projectionCheckpoint = store₀.outbox.length)
    (hone : OneDefinition log) (hnamed : ∀ entry ∈ log, entry.1.definition.ErrorRefsNamed) (key : StreamKey)
    (id : NodeId) : b.subscriptions[key.boundary id]?.map ProjectedBoundarySubscription.active =
      (rehydrate none (store₀.history key)).activeBoundarySubscriptions[id]? := by
  obtain ⟨records,hrs,hm⟩ := h.caught.projected
  rw [hcaught, h₀.outbox_take h.handled] at hrs
  have hem (e : EventEnvelope) (he : e ∈ store₀.stream key) : e.event.ErrorRefNamed ∧ ∃ c, Emitted c e := by
    obtain ⟨entry,hent,hem⟩ := h₀.emitted he
    exact ⟨hem.errorRefNamed (hnamed entry hent),_,hem⟩
  rw [hm key id, foldl_projectRecord hrs (h₀.serialized.streams key) hem, ← h₀.projects hone]
  rfl

end Projecting

namespace Sample

def chargeStore (d : WorkflowDefinition) : MemoryState (.plain _) := (handleAll (.plain _) (chargeCalls d)).2

def chargeKey : StreamKey := ⟨.lit "tenant-a", .lit "instance-1"⟩

end Sample

open Sample

theorem projection_follows_engine_charge :
    ∃ d, ∃ b : MemoryBoundaryState, WirLoader.mapDefinition .insertion (chargeWir "declined") = .ok d ∧
      b.projectionCheckpoint = (chargeStore d).outbox.length ∧
      (b.subscriptions[chargeKey.boundary (.lit "failed")]?).isSome = true ∧
      b.subscriptions[chargeKey.boundary (.lit "failed")]?.map ProjectedBoundarySubscription.active =
        (rehydrate none ((chargeStore d).history chargeKey)).activeBoundarySubscriptions[
          (.lit "failed" : NodeId)]? := by
  obtain ⟨d,b₁,o₁,b,o₂,hl,h₁,h₂,hc,hca,hs,hn⟩ : ∃ d b₁ o₁ b o₂,
      WirLoader.mapDefinition .insertion (chargeWir "declined") = .ok d ∧
      projectOnce (fun _ => none) boundaryPolicy (chargeStore d) {} = .ok (o₁, b₁) ∧
      projectOnce (fun _ => none) boundaryPolicy (chargeStore d) b₁ = .ok (o₂, b) ∧
      b.projectionCheckpoint = (chargeStore d).outbox.length ∧
      (handleAll (.plain _) (chargeCalls d)).1.map (fun entry => entry.1.definition) = [d] ∧
      (b.subscriptions[chargeKey.boundary (.lit "failed")]?).isSome = true ∧
      ∀ entry ∈ d.boundaryEventMap.toList, ∀ b ∈ entry.2, b.trigger.errorRefNamed = true :=
    ⟨_,_,_,_,_,rfl,rfl,rfl,rfl,rfl,rfl,by decide⟩
  have hd (entry) (he : entry ∈ (handleAll (.plain _) (chargeCalls d)).1) :
      entry.1.definition = d := mem_singleton.mp (hca ▸ mem_map_of_mem he)
  have hh : Handled (handleAll (.plain _) (chargeCalls d)).1 (chargeStore d) := handled_handleAll _ _
  have hp : Projecting (fun _ => none) ((handleAll (.plain _) (chargeCalls d)).1 ++ [])
      (chargeStore d) b := by
    rw [append_nil]
    exact ((projecting_of_handled hh).project h₁).project h₂
  refine ⟨d,b,hl,hc,hs,?_⟩
  refine projection_follows_engine hh [] hp hc ?_ ?_ _ _
  · intro entry he entry' he' _ _ _
    rw [hd entry he, hd entry' he']
  · intro entry he
    rw [hd entry he]
    exact errorRefsNamed_of_map hn

/-- The engine keeps a blank error reference, the projection reads it as none. -/
theorem projected_trigger_differs :
    ∃ d b₁ o₁ b o₂ subscription active, WirLoader.mapDefinition .insertion (chargeWir " ") = .ok d ∧
      projectOnce (fun _ => none) boundaryPolicy (chargeStore d) {} = .ok (o₁, b₁) ∧
      projectOnce (fun _ => none) boundaryPolicy (chargeStore d) b₁ = .ok (o₂, b) ∧
      b.projectionCheckpoint = (chargeStore d).outbox.length ∧
      b.subscriptions[chargeKey.boundary (.lit "failed")]? = some subscription ∧
      (rehydrate none ((chargeStore d).history chargeKey)).activeBoundarySubscriptions[
        (.lit "failed" : NodeId)]? = some active ∧
      subscription.trigger = .error none ∧ active.trigger = .error (some " ") :=
  ⟨_,_,_,_,_,_,_,rfl,rfl,rfl,rfl,rfl,rfl,rfl,rfl⟩

end BpmpPlatform
