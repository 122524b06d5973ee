import BpmpPlatform.Engine.Outbox

/-! # When a call succeeds

In every run a stream belongs to one version of one workflow. A call that its ports grant succeeds exactly when its
result is stored already or the instance takes its command.
-/
namespace BpmpPlatform
open Std Outcome CommitRequest MemoryState List

def WorkflowDefinition.workflow (d : WorkflowDefinition) : WorkflowType × WorkflowVersion :=
  (d.workflowType, d.workflowVersion)

def EventEnvelope.workflow (e : EventEnvelope) : WorkflowType × WorkflowVersion :=
  (e.metadata.workflowType, e.metadata.workflowVersion)

def SnapshotEnvelope.workflow (s : SnapshotEnvelope) : WorkflowType × WorkflowVersion :=
  (s.workflowType, s.workflowVersion)

variable {format : MessageFormat Wire.EventEnvelope} {definition : WorkflowDefinition} {store : MemoryState format}
  {request : AuthorizedCommand} {cfg : ResolvedConfigSnapshot} {loaded : LoadedInstance}

section Workflows
variable {store store' : MemoryState format} {key : StreamKey}

structure OneWorkflow (store : MemoryState format) (key : StreamKey) : Prop where
  events : ∀ e ∈ store.stream key, ∀ e' ∈ store.stream key, e.workflow = e'.workflow
  snapshot : ∀ snapshot, store.snapshots[key]? = some snapshot →
    ∃ e ∈ store.stream key, e.workflow = snapshot.workflow

theorem OneWorkflow.congr (h : OneWorkflow store key) (hs : store'.stream key = store.stream key)
    (hsn : store'.snapshots[key]? = store.snapshots[key]?) : OneWorkflow store' key := by
  constructor
  · rw [hs]; exact h.events
  · rw [hs, hsn]; exact h.snapshot

theorem checkWorkflow_eq_ok : checkWorkflow definition loaded = .ok () ↔
    (∀ snapshot, loaded.snapshot = some snapshot → snapshot.workflow = definition.workflow) ∧
      ∀ e ∈ loaded.events, e.workflow = definition.workflow := by
  simp [checkWorkflow, EventEnvelope.workflow, SnapshotEnvelope.workflow, WorkflowDefinition.workflow, Prod.ext_iff,
    Option.all_eq_true]

theorem OneWorkflow.checkWorkflow_iff (h : OneWorkflow store key) (hr : Replayable store key)
    (hl : store.load key.tenantId key.instanceId = .ok loaded) :
    checkWorkflow definition loaded = .ok () ↔ ∀ e ∈ store.stream key, e.workflow = definition.workflow := by
  obtain ⟨loaded',hl',hsn,hes,_,_⟩ := hr.load_eq
  obtain rfl : loaded' = loaded := Except.ok.inj (hl'.symm.trans hl)
  rw [checkWorkflow_eq_ok]
  constructor
  · rintro ⟨hm,ht⟩ e he
    cases hs : loaded'.snapshot with
    | none =>
      rw [hes, hs] at ht
      exact ht e he
    | some snapshot =>
      obtain ⟨e',he',hn⟩ := h.snapshot snapshot (hsn ▸ hs)
      rw [h.events e he e' he', hn, hm snapshot hs]
  · intro hall
    constructor
    · intro snapshot hs
      obtain ⟨e,he,hn⟩ := h.snapshot snapshot (hsn ▸ hs)
      rw [← hn, hall e he]
    · intro e he
      rw [hes] at he
      exact hall e (mem_of_mem_drop he)

theorem Handled.oneWorkflow {log : CallLog} (h : Handled log store) (key : StreamKey) : OneWorkflow store key := by
  induction h with
  | start => exact ⟨fun e he => by simp [stream] at he,fun snapshot hget => by simp at hget⟩
  | @call log store store' c outcome h hc ih =>
    rcases handle_effect hc with hobs | ⟨x,hx⟩
    · exact ih.congr (hobs.stream key) (by rw [hobs.snapshots])
    · by_cases hkey : c.request.streamKey = key
      · subst hkey
        have hold := (ih.checkWorkflow_iff (h.replayable _) hx.loaded).mp hx.matched
        have hnew : ∀ e ∈ x.envelopes, e.workflow = c.definition.workflow := by
          intro e he
          rw [EventEnvelope.workflow, hx.metadata he]
          rfl
        have hall : ∀ e ∈ store'.stream c.request.streamKey, e.workflow = c.definition.workflow := by
          intro e he
          rw [hx.stream, if_pos rfl, mem_append] at he
          exact he.elim (hold e) (hnew e)
        refine ⟨fun e he e' he' => (hall e he).trans (hall e' he').symm,fun snapshot hget => ?_⟩
        rw [hx.snapshots, if_pos rfl] at hget
        cases ht : snapshotAtLatestBoundary c.definition c.request x.configuration x.loaded.state x.envelopes with
        | none =>
          rw [ht, Option.none_or] at hget
          obtain ⟨e,he,hn⟩ := ih.snapshot snapshot hget
          refine ⟨e,?_,hn⟩
          rw [hx.stream, if_pos rfl]
          exact mem_append_left _ he
        | some =>
          rw [ht, Option.some_or, Option.some.injEq] at hget
          subst hget
          obtain ⟨before,cut,hat⟩ := exists_cutsAt_of_snapshot ht
          rw [hat.snapshot_eq, Option.some.injEq] at ht
          obtain ⟨_,after,henv,_⟩ := hat
          have hcut : cut ∈ x.envelopes := by simp [henv]
          refine ⟨cut,?_,?_⟩
          · rw [hx.stream, if_pos rfl]
            exact mem_append_right _ hcut
          · rw [hnew cut hcut, ← ht]
            rfl
      · exact ih.congr (by rw [hx.stream, if_neg hkey]) (by rw [hx.snapshots, if_neg hkey])

theorem instance_one_workflow (calls : List Call) (key : StreamKey) : OneWorkflow (handleAll format calls).2 key :=
  (handled_handleAll format calls).oneWorkflow key

end Workflows

section Committing
variable {c : CommitRequest} {events : List EventEnvelope}

theorem contiguous_of_numbers {n : Nat} (h : events.map EventEnvelope.sequence = List.range' n events.length) :
    contiguous events = true := by
  induction events generalizing n with
  | nil => rfl
  | cons first rest ih =>
    rw [map_cons, length_cons, List.range'_succ, List.cons.injEq] at h
    obtain ⟨hf,hr⟩ := h
    cases rest with
    | nil => rfl
    | cons second =>
      have hse : second.sequence = n + 1 := by
        rw [map_cons, length_cons, List.range'_succ, List.cons.injEq] at hr
        exact hr.1
      rw [contiguous, hse, hf, ih hr]
      simp

theorem exists_outboxRecords {tail index : Nat} (h : tail + index + events.length ≤ u64Max) :
    ∃ records, c.outboxRecordsFrom format tail index events = .ok records := by
  induction events generalizing index with
  | nil => exact ⟨[],rfl⟩
  | cons e events ih =>
    rw [length_cons] at h
    obtain ⟨records,hrs⟩ : ∃ records, c.outboxRecordsFrom format tail (index + 1) events = .ok records :=
      ih (by omega)
    have hn : tail + index + 1 ≤ u64Max := by omega
    simp [outboxRecordsFrom, ensure, hn, hrs, ok_bind]

theorem exists_attachFrom {actorId : ActorId} {version ordinal : Nat} {events : List DomainEvent}
    (h : version + ordinal + events.length ≤ u64Max) :
    ∃ envelopes, attachFrom definition request actorId cfg version ordinal events = .ok envelopes := by
  induction events generalizing ordinal with
  | nil => exact ⟨[],rfl⟩
  | cons e events ih =>
    rw [length_cons] at h
    obtain ⟨envelopes,henv⟩ : ∃ envelopes, attachFrom definition request actorId cfg version (ordinal + 1)
        events = .ok envelopes := ih (by omega)
    have hn : version + ordinal + 1 ≤ u64Max := by omega
    simp [attachFrom, ensure, hn, henv, ok_bind]

theorem commit_isOk (hau : c.validateAuthorizationAudit = .ok ()) (hf : store.idempotency[c.idempotencyScope]? = none)
    (hun : store.authorizationAudits[c.auditKey]? = none) (hsn : c.snapshot.all c.snapshotFits = true)
    (hr : store.outbox.length + c.events.length ≤ u64Max)
    (hv : (store.stream c.streamKey).length = c.expectedVersion) (hb : c.expectedVersion ≤ u64Max)
    (hn : c.events.map EventEnvelope.sequence = List.range' (c.expectedVersion + 1) c.events.length) :
    ∃ store', store.commit c = (.ok (.committed c.result), store') := by
  obtain ⟨records,hrs⟩ : ∃ records, c.outboxRecordsFrom format store.outbox.length 0 c.events = .ok records :=
    exists_outboxRecords (by omega)
  have hfr : store.authorizationAudits.contains c.auditKey = false := by
    rw [ExtTreeMap.contains_eq_isSome_getElem?, hun]; rfl
  have hp : store.prepareCommit c = .ok (.inr records) := by
    have ht : u64Length store.outbox.length = .ok store.outbox.length :=
      u64Length_eq_ok.mpr ⟨by omega,rfl⟩
    simp only [prepareCommit, hau, ok_bind, storedResult_eq_none_iff.mpr hf, hfr, ht, hsn,
      ensure, Bool.not_false, if_true, hrs]
    rfl
  have hs : ((store.openStream c.streamKey).stream c.streamKey).length = c.expectedVersion := by
    rw [(openStream_observes store c.streamKey).stream, hv]
  have hh : (c.events.head?.all fun event => event.sequence == c.expectedVersion + 1) = true := by
    cases hes : c.events with
    | nil => rfl
    | cons =>
      rw [hes, map_cons, length_cons, List.range'_succ, List.cons.injEq] at hn
      simp [hn.1]
  have hc : c.checkAppend ((store.openStream c.streamKey).stream c.streamKey) = .ok () := by
    have ha : u64Length c.expectedVersion = .ok c.expectedVersion :=
      u64Length_eq_ok.mpr ⟨hb,rfl⟩
    simp [checkAppend, hs, ha, ok_bind, ensure, hh, contiguous_of_numbers hn]
  refine ⟨(store.openStream c.streamKey).append c records,?_⟩
  unfold commit
  simp only [hp, hc]

/-- A snapshot the engine takes lies among the events it is committed with. -/
theorem snapshot_fits {x : Transaction format} (hv : x.loaded.state.sequence = x.loaded.version)
    (hb : x.loaded.version + x.envelopes.length ≤ u64Max) :
    (x.commit definition request).snapshot.all (x.commit definition request).snapshotFits = true := by
  rw [Option.all_eq_true]
  intro snapshot ht
  obtain ⟨before,cut,hat⟩ := exists_cutsAt_of_snapshot ht
  have hsn := hat.snapshot_eq.symm.trans ht
  rw [Option.some.injEq] at hsn
  obtain ⟨_,after,henv,_⟩ := hat
  have hl : x.envelopes.length = before.length + 1 + after.length := by
    rw [henv]; simp; omega
  have hsq : (evolveAll x.loaded.state (before ++ [cut])).sequence = x.loaded.version + (before.length + 1) := by
    rw [evolveAll, foldl_evolve_sequence (by simp; omega), hv]
    simp
  subst hsn
  simp only [snapshotFits, snapshotOf, hsq, Transaction.commit, commitRequestOf, Transaction.result,
    beq_self_eq_true, Bool.and_self, Bool.true_and, Bool.and_eq_true, decide_eq_true_eq]
  omega

end Committing

section Granted

def MemoryState.current (store : MemoryState format) (key : StreamKey) : InstanceState :=
  rehydrate none (store.history key)

structure Granted (ports : EnginePorts) (definition : WorkflowDefinition) (request : AuthorizedCommand)
    (principal : AuthorizedPrincipal) (configuration : ResolvedConfigSnapshot) : Prop where
  tenant : request.tenantId = definition.tenantId
  authorized : ports.authorize (authorizationRequestOf definition request) = .ok principal
  resolved : ports.resolve ⟨request.tenantId, definition.workflowType, definition.workflowVersion⟩ = .ok configuration
  policy : configuration.policyVersion = principal.policyVersion
  keyScope : request.encryptionKeyScope = configuration.eventPayloadKeyScope
  workload : principal.workloadId ≠ ""
  grants : principal.matchedGrantIds ≠ []

def Recorded (store : MemoryState format) (request : AuthorizedCommand) (actorId : ActorId) : Prop :=
  ∃ result, store.idempotency[request.scope actorId]? = some ⟨request.commandId, result⟩

/-- The instance takes the command: its ids are fresh, the definition is that of the stream, and the command is
decided in the current state with events for which there is room. -/
structure Takes (store : MemoryState format) (definition : WorkflowDefinition) (request : AuthorizedCommand)
    (actorId : ActorId) (context : DecisionContext) (events : List DomainEvent) : Prop where
  fresh : store.idempotency[request.scope actorId]? = none
  unaudited : store.authorizationAudits[request.auditKey]? = none
  workflow : ∀ e ∈ store.stream request.streamKey, e.workflow = definition.workflow
  decided : decideEvents definition (store.current request.streamKey) request.command context = .ok events
  room : store.outbox.length + events.length ≤ u64Max

variable {ports : EnginePorts} {principal : AuthorizedPrincipal} {log : CallLog}

theorem Serialized.stream_length_le (h : Serialized store) (key : StreamKey) :
    (store.stream key).length ≤ store.outbox.length := by
  rw [← (h.streams key).length_eq]
  exact length_filter_le _ _

theorem transitionSelector_action (definition : WorkflowDefinition) (command : Command) :
    (transitionSelector definition command).2 ≠ "" := by
  cases command <;> simp [transitionSelector]

theorem allow_ne_empty (id : String) : "allow:" ++ id ≠ "" := by
  intro h
  have hl := congrArg String.toList h
  rw [String.toList_append] at hl
  cases hl

section
variable (h : Granted ports definition request principal cfg)
include h

theorem Granted.audit {events : List DomainEvent} {envelopes : List EventEnvelope}
    {records : List (OutboxRecord format)}
    (henv : attachMetadata definition request principal.actorId cfg loaded.version events = .ok envelopes) :
    ((⟨principal, cfg, loaded, events, envelopes, records⟩ : Transaction format).commit definition
      request).validateAuthorizationAudit = .ok () := by
  have hde : envelopes.all (describedBy
      (buildAuthorizationAudit definition request cfg principal)) = true := by
    rw [all_eq_true]
    intro e he
    simp [describedBy, (attachFrom_spec henv).2.2 _ he, metadataOf, buildAuthorizationAudit, h.policy]
  have ha : (buildAuthorizationAudit definition request cfg principal).decisionId ≠ "" :=
    allow_ne_empty _
  have hac : (buildAuthorizationAudit definition request cfg principal).action ≠ "" :=
    transitionSelector_action _ _
  have hwo : (buildAuthorizationAudit definition request cfg principal).workloadId ≠ "" := h.workload
  have hgr : (buildAuthorizationAudit definition request cfg principal).matchedGrantIds ≠ [] := h.grants
  simp only [validateAuthorizationAudit, ensure_eq_ok, Transaction.commit, commitRequestOf, hde,
    bne_iff_ne.mpr ha, bne_iff_ne.mpr hac, bne_iff_ne.mpr hwo, isEmpty_eq_false_iff.mpr hgr]
  simp [buildAuthorizationAudit, Transaction.result, h.policy]

theorem Granted.prepareHandle_fresh (hf : store.idempotency[request.scope principal.actorId]? = none) :
    prepareHandle ports definition request store = .inr <$> decideCommit ports definition request store principal := by
  have hl : store.lookupIdempotency request.tenantId principal.actorId request.idempotencyKey request.commandId =
      .ok none := storedResult_eq_none_iff.mpr hf
  simp only [prepareHandle, h.tenant, beq_self_eq_true, ensure, if_true, ok_bind, h.authorized, Except.mapError] at hl ⊢
  rw [hl]
  rfl

theorem Granted.decideCommit_eq_ok (hl : store.load request.tenantId request.instanceId = .ok loaded)
    {c : CommitRequest} : decideCommit ports definition request store principal = .ok c ↔
      checkWorkflow definition loaded = .ok () ∧ ∃ events envelopes,
        decideEvents definition loaded.state request.command (cfg.context request) = .ok events ∧
        attachMetadata definition request principal.actorId cfg loaded.version events = .ok envelopes ∧
        loaded.version + envelopes.length ≤ u64Max ∧
        c = (⟨principal, cfg, loaded, events, envelopes, []⟩ : Transaction format).commit definition request := by
  have hbi : validateConfigurationBinding request cfg principal = .ok () := by
    simp [validateConfigurationBinding, h.policy, h.keyScope]
  simp only [decideCommit, bind_eq_ok, mapError_eq_ok, committedResult, ensure_eq_ok, decide_eq_true_eq,
    pure_eq_ok]
  constructor
  · rintro ⟨configuration',hre,_,_,loaded',hl',_,hm,events,hd,envelopes,ha,_,⟨_,hb,rfl⟩,rfl⟩
    obtain rfl : cfg = configuration' := Except.ok.inj (h.resolved.symm.trans hre)
    obtain rfl : loaded = loaded' := Except.ok.inj (hl.symm.trans hl')
    exact ⟨hm,events,envelopes,hd,ha,hb,rfl⟩
  · rintro ⟨hm,events,envelopes,hd,ha,hb,rfl⟩
    exact ⟨cfg,h.resolved,(),hbi,loaded,hl,(),hm,events,hd,envelopes,ha,_,
      ⟨(),hb,rfl⟩,rfl⟩

end

/-- A granted call succeeds exactly when its result is known or the instance takes its command. -/
theorem Granted.handle_isOk_iff (hg : Granted ports definition request principal cfg)
    (h : Handled log store) : (∃ outcome, (handle ports definition request store).1 = .ok outcome) ↔
      Recorded store request principal.actorId ∨
        ∃ events, Takes store definition request principal.actorId (cfg.context request) events := by
  have hre := h.replayable request.streamKey
  obtain ⟨loaded,hlo,_,_,hv,hsta⟩ := hre.load_eq
  have hlo : store.load request.tenantId request.instanceId = .ok loaded := hlo
  have hwo (d : WorkflowDefinition) : checkWorkflow d loaded = .ok () ↔
      ∀ e ∈ store.stream request.streamKey, e.workflow = d.workflow :=
    (h.oneWorkflow request.streamKey).checkWorkflow_iff hre hlo
  have hlen := h.serialized.stream_length_le request.streamKey
  constructor
  · rintro ⟨outcome,hok⟩
    generalize hca : handle ports definition request store = pair at hok
    obtain ⟨_,store'⟩ := pair
    cases hok
    rcases handle_cases hca with ⟨_,herr,_⟩ | ⟨principal',result,_,_,hau,hst⟩ | ⟨x,_,hx,hres⟩
    · cases herr
    · obtain rfl : principal' = principal := Except.ok.inj (hau.symm.trans hg.authorized)
      exact .inl ⟨result,hst⟩
    · have hf := hx.fresh
      rw [Except.ok.inj (hx.authorized.symm.trans hg.authorized)] at hf
      have hl : x.loaded = loaded := Except.ok.inj (hx.loaded.symm.trans hlo)
      have hm := hx.matched
      have hdec := hx.decided
      rw [Except.ok.inj (hres.symm.trans hg.resolved), hl, hsta] at hdec
      rw [hl] at hm
      have hb := (outboxRecordsFrom_spec hx.checked.records).2.1 h.outbox_bounded
      rw [Nat.add_zero, hx.publishes.length_eq, attachFrom_length hx.attached] at hb
      exact .inr ⟨x.events,hf,hx.checked.audit,(hwo definition).mp hm,hdec,hb⟩
  · rintro (⟨result,hst⟩ | ⟨events,hta⟩)
    · have hl : store.lookupIdempotency request.tenantId principal.actorId request.idempotencyKey
          request.commandId = .ok (some result) := storedResult_eq_some_iff.mpr hst
      have hp : prepareHandle ports definition request store = .ok (.inl result) := by
        simp only [prepareHandle, bind_eq_ok, ensure_eq_ok, mapError_eq_ok, beq_iff_eq]
        exact ⟨(),hg.tenant,principal,hg.authorized,some result,hl,rfl⟩
      exact ⟨.duplicate result,by rw [handle, hp]⟩
    · have hb : loaded.version + events.length ≤ u64Max := by
        have := hta.room
        omega
      obtain ⟨envelopes,ha⟩ : ∃ envelopes, attachMetadata definition request principal.actorId cfg
          loaded.version events = .ok envelopes := exists_attachFrom (by omega)
      have hen := attachFrom_length ha
      have hb' : loaded.version + envelopes.length ≤ u64Max := by omega
      have hle : loaded.version ≤ u64Max := by omega
      have hdec := hta.decided
      rw [current, ← hsta] at hdec
      have hde := (hg.decideCommit_eq_ok hlo).mpr
        ⟨(hwo definition).mpr hta.workflow,events,envelopes,hdec,ha,hb',rfl⟩
      have hn := (attachFrom_spec ha).2.1
      rw [Nat.add_zero] at hn
      have hsq : loaded.state.sequence = loaded.version := by
        rw [hsta, rehydrate_sequence, hv]
        · simp [history]
        · simpa [history] using hre.bounded
      have hro := hta.room
      rw [← hen] at hro
      obtain ⟨store',hco⟩ : ∃ store', store.commit ((⟨principal, cfg, loaded, events, envelopes, []⟩ :
          Transaction format).commit definition request) = (.ok (.committed _), store') :=
        commit_isOk (hg.audit ha) hta.fresh hta.unaudited (snapshot_fits hsq hb') hro
          hv.symm hle hn
      have hr : (handle ports definition request store).1 = .ok (.committed
          (⟨principal, cfg, loaded, events, envelopes, []⟩ : Transaction format).result) := by
        rw [handle, hg.prepareHandle_fresh hta.fresh, hde]
        simp only [Functor.map, Except.map, hco]
        rfl
      exact ⟨_,hr⟩

end Granted

end BpmpPlatform
