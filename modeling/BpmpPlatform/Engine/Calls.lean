import BpmpPlatform.Engine.Handle

/-! # What a call can do

A call fails and leaves everything as it can be observed, answers with a stored result, or commits. Runs
are sequences of calls, each with its own ports, definition and request.
-/
namespace BpmpPlatform
open Std Outcome MemoryState

section Commit
variable {format : MessageFormat Wire.EventEnvelope} {store store' : MemoryState format} {c : CommitRequest}
  {scope : IdempotencyScope} {commandId : CommandId}

/-- The two states cannot be told apart: they differ at most in empty streams. -/
structure Observes (store store' : MemoryState format) : Prop where
  stream : ∀ key, store'.stream key = store.stream key
  snapshots : store'.snapshots = store.snapshots
  idempotency : store'.idempotency = store.idempotency
  authorizationAudits : store'.authorizationAudits = store.authorizationAudits
  outbox : store'.outbox = store.outbox

theorem Observes.refl (store : MemoryState format) : Observes store store := ⟨fun _ => rfl,rfl,rfl,rfl,rfl⟩

theorem openStream_observes (store : MemoryState format) (key : StreamKey) : Observes store (store.openStream key) := by
  refine ⟨fun key' => ?_,rfl,rfl,rfl,rfl⟩
  simp only [MemoryState.stream, openStream, getElem?_insert_eq]
  split
  · rename_i heq
    subst heq
    rfl
  · rfl

structure Appended (store : MemoryState format) (c : CommitRequest) (records : List (OutboxRecord format))
    (store' : MemoryState format) : Prop where
  stream : ∀ key, store'.stream key = if c.streamKey = key then store.stream key ++ c.events else store.stream key
  snapshots : ∀ key : StreamKey, store'.snapshots[key]? =
    if c.streamKey = key then c.snapshot.or store.snapshots[key]? else store.snapshots[key]?
  idempotency : ∀ scope : IdempotencyScope, store'.idempotency[scope]? =
    if c.idempotencyScope = scope then some ⟨c.commandId, c.result⟩ else store.idempotency[scope]?
  authorizationAudits : ∀ key : AuthorizationAuditKey, store'.authorizationAudits[key]? =
    if c.auditKey = key then some c.authorizationAudit else store.authorizationAudits[key]?
  outbox : store'.outbox = store.outbox ++ records

theorem append_appended (records : List (OutboxRecord format)) :
    Appended store c records ((store.openStream c.streamKey).append c records) := by
  have ho := openStream_observes store c.streamKey
  refine ⟨fun key => ?_,fun key => ?_,fun scope => ?_,fun key => ?_,rfl⟩
  · simp only [MemoryState.stream, append, getElem?_insert_eq]
    split
    · rename_i heq
      subst heq
      exact congrArg (· ++ c.events) (ho.stream _)
    · exact ho.stream key
  · cases hs : c.snapshot with
    | none => simp [append, hs, openStream]
    | some => simp [append, hs, openStream, getElem?_insert_eq]
  · simp only [append, getElem?_insert_eq, openStream]
  · simp only [append, getElem?_insert_eq, openStream]

theorem u64Length_eq_ok {length actual : Nat} :
    u64Length length = .ok actual ↔ length ≤ u64Max ∧ length = actual := by
  unfold u64Length
  split <;> simp_all

theorem storedResult_eq_none_iff :
    store.storedResult scope commandId = .ok none ↔ store.idempotency[scope]? = none := by
  unfold storedResult
  split
  · rename_i h
    simp [h]
  · rename_i stored h
    split <;> simp [h]

theorem storedResult_eq_some_iff {result : CommittedResult} :
    store.storedResult scope commandId = .ok (some result) ↔
      store.idempotency[scope]? = some ⟨commandId, result⟩ := by
  unfold storedResult
  split
  · rename_i h
    simp [h]
  · rename_i stored h
    obtain ⟨id,stored⟩ := stored
    split <;> simp_all

structure Committable (store : MemoryState format) (c : CommitRequest) (records : List (OutboxRecord format)) :
    Prop where
  audit : store.authorizationAudits[c.auditKey]? = none
  snapshot : c.snapshot.all c.snapshotFits = true
  records : c.outboxRecordsFrom format store.outbox.length 0 c.events = .ok records
  version : (store.stream c.streamKey).length = c.expectedVersion

theorem commit_cases {outcome : Except StoreError CommitOutcome} (h : store.commit c = (outcome, store'))
    (hf : store.idempotency[c.idempotencyScope]? = none) : (∃ error, outcome = .error error ∧ Observes store store') ∨
      (outcome = .ok (.committed c.result) ∧
        ∃ records, Committable store c records ∧ Appended store c records store') := by
  unfold commit at h
  split at h
  · cases h
    exact .inl ⟨_,rfl,.refl _⟩
  · rename_i result hp
    simp only [prepareCommit, bind_eq_ok, storedResult_eq_none_iff.mpr hf, Except.ok.injEq] at hp
    obtain ⟨_,_,_,rfl,hp⟩ := hp
    simp only [bind_eq_ok, pure_eq_ok] at hp
    obtain ⟨_,_,_,_,_,_,_,_,hca⟩ := hp
    cases hca
  · rename_i records hp
    simp only [prepareCommit, bind_eq_ok, storedResult_eq_none_iff.mpr hf, Except.ok.injEq] at hp
    obtain ⟨_,_,_,rfl,hp⟩ := hp
    simp only [bind_eq_ok, ensure_eq_ok, pure_eq_ok, Sum.inr.injEq] at hp
    obtain ⟨_,ha,_,hsn,tail,ht,records',hrs,rfl⟩ := hp
    obtain ⟨_,rfl⟩ := u64Length_eq_ok.mp ht
    simp only at h
    split at h
    · cases h
      exact .inl ⟨_,rfl,openStream_observes store _⟩
    · rename_i hc
      cases h
      refine .inr ⟨rfl,records',⟨?_,hsn,hrs,?_⟩,append_appended records'⟩
      · exact not_contains_iff.mp ha
      · simp only [CommitRequest.checkAppend, bind_eq_ok, ensure_eq_ok, beq_iff_eq] at hc
        obtain ⟨actual,hact,_,heq,_⟩ := hc
        obtain ⟨_,rfl⟩ := u64Length_eq_ok.mp hact
        rw [← heq, (openStream_observes store c.streamKey).stream]

end Commit

structure Transaction (format : MessageFormat Wire.EventEnvelope) where
  principal : AuthorizedPrincipal
  configuration : ResolvedConfigSnapshot
  loaded : LoadedInstance
  events : List DomainEvent
  envelopes : List EventEnvelope
  records : List (OutboxRecord format)

def Transaction.result {format : MessageFormat Wire.EventEnvelope} (x : Transaction format) : CommittedResult where
  version := x.loaded.version + x.envelopes.length
  eventIds := x.envelopes.map fun event => event.metadata.eventId
  configVersion := x.configuration.configVersion
  policyVersion := x.configuration.policyVersion

def AuthorizedCommand.streamKey (request : AuthorizedCommand) : StreamKey := ⟨request.tenantId, request.instanceId⟩

def AuthorizedCommand.scope (request : AuthorizedCommand) (actorId : ActorId) : IdempotencyScope :=
  ⟨request.tenantId, actorId, request.idempotencyKey⟩

def AuthorizedCommand.auditKey (request : AuthorizedCommand) : AuthorizationAuditKey :=
  ⟨request.tenantId, request.commandId⟩

section Handle
variable {format : MessageFormat Wire.EventEnvelope} (ports : EnginePorts) (definition : WorkflowDefinition)
  (request : AuthorizedCommand) (store : MemoryState format)

def Transaction.commit (x : Transaction format) : CommitRequest :=
  commitRequestOf definition request x.principal x.configuration x.loaded x.envelopes x.result

structure Commits (x : Transaction format) (store' : MemoryState format) : Prop where
  tenant : request.tenantId = definition.tenantId
  authorized : ports.authorize (authorizationRequestOf definition request) = .ok x.principal
  fresh : store.idempotency[request.scope x.principal.actorId]? = none
  loaded : store.load request.tenantId request.instanceId = .ok x.loaded
  matched : checkWorkflow definition x.loaded = .ok ()
  decided : decideEvents definition x.loaded.state request.command (x.configuration.context request) = .ok x.events
  attached : attachMetadata definition request x.principal.actorId x.configuration x.loaded.version x.events =
    .ok x.envelopes
  bounded : x.loaded.version + x.envelopes.length ≤ u64Max
  checked : Committable store (x.commit definition request) x.records
  appended : Appended store (x.commit definition request) x.records store'

variable {ports definition request store} {store' : MemoryState format} {outcome : Except EngineError HandleOutcome}

/-- Every call fails without a trace, repeats a stored result, or commits. -/
theorem handle_cases (h : handle ports definition request store = (outcome, store')) :
    (∃ error, outcome = .error error ∧ Observes store store') ∨
      (∃ principal result, outcome = .ok (.duplicate result) ∧ store' = store ∧
        ports.authorize (authorizationRequestOf definition request) = .ok principal ∧
        store.idempotency[request.scope principal.actorId]? = some ⟨request.commandId, result⟩) ∨
      ∃ x : Transaction format, outcome = .ok (.committed x.result) ∧ Commits ports definition request store x store' ∧
        ports.resolve ⟨request.tenantId, definition.workflowType, definition.workflowVersion⟩ = .ok x.configuration := by
  unfold handle at h
  split at h
  · cases h
    exact .inl ⟨_,rfl,.refl _⟩
  · rename_i result hp
    cases h
    simp only [prepareHandle, bind_eq_ok, mapError_eq_ok] at hp
    obtain ⟨_,_,principal,ha,stored,hst,hp⟩ := hp
    cases stored with
    | none =>
      simp only [bind_eq_ok, pure_eq_ok] at hp
      obtain ⟨_,_,hca⟩ := hp
      cases hca
    | some stored =>
      simp only [pure_eq_ok, Sum.inl.injEq] at hp
      subst hp
      exact .inr (.inl ⟨principal,stored,rfl,rfl,ha,storedResult_eq_some_iff.mp hst⟩)
  · rename_i c hp
    simp only [prepareHandle, bind_eq_ok, mapError_eq_ok, ensure_eq_ok, beq_iff_eq] at hp
    obtain ⟨_,ht,principal,ha,stored,hst,hp⟩ := hp
    cases stored with
    | some =>
      simp only [pure_eq_ok] at hp
      cases hp
    | none =>
      simp only [bind_eq_ok, pure_eq_ok, Sum.inr.injEq] at hp
      obtain ⟨_,hde,rfl⟩ := hp
      simp only [decideCommit, committedResult, bind_eq_ok, mapError_eq_ok, ensure_eq_ok, decide_eq_true_eq,
        pure_eq_ok] at hde
      obtain ⟨configuration,hre,_,_,loaded,hlo,_,hm,events,hdec,envelopes,henv,_,⟨_,hb,rfl⟩,rfl⟩ := hde
      have hf := storedResult_eq_none_iff.mp hst
      generalize hs : store.commit _ = pair at h
      obtain ⟨committed,store₁⟩ := pair
      rcases commit_cases hs hf with ⟨error,rfl,hobs⟩ | ⟨rfl,records,hc,happ⟩
      · cases h
        exact .inl ⟨_,rfl,hobs⟩
      · cases h
        exact .inr (.inr ⟨⟨principal, configuration, loaded, events, envelopes, records⟩,rfl,
          ⟨ht,ha,hf,hlo,hm,hdec,henv,hb,hc,happ⟩,hre⟩)

/-- A call that does not commit leaves everything as it was, up to an empty stream. -/
theorem handle_effect (h : handle ports definition request store = (outcome, store')) :
    Observes store store' ∨ ∃ x, Commits ports definition request store x store' := by
  rcases handle_cases h with ⟨_,_,hobs⟩ | ⟨_,_,_,rfl,_⟩ | ⟨x,_,hx,_⟩
  · exact .inl hobs
  · exact .inl (.refl _)
  · exact .inr ⟨x,hx⟩

section Appended
variable {x : Transaction format} (h : Commits ports definition request store x store')
include h

theorem Commits.stream (key : StreamKey) : store'.stream key =
    if request.streamKey = key then store.stream key ++ x.envelopes else store.stream key := h.appended.stream key

theorem Commits.snapshots (key : StreamKey) : store'.snapshots[key]? =
    if request.streamKey = key then
      (snapshotAtLatestBoundary definition request x.configuration x.loaded.state x.envelopes).or store.snapshots[key]?
    else store.snapshots[key]? := h.appended.snapshots key

theorem Commits.idempotency (scope : IdempotencyScope) : store'.idempotency[scope]? =
    if request.scope x.principal.actorId = scope then some ⟨request.commandId, x.result⟩
    else store.idempotency[scope]? := h.appended.idempotency scope

theorem Commits.authorizationAudits (key : AuthorizationAuditKey) : store'.authorizationAudits[key]? =
    if request.auditKey = key then some (buildAuthorizationAudit definition request x.configuration x.principal)
    else store.authorizationAudits[key]? := h.appended.authorizationAudits key

theorem Commits.outbox : store'.outbox = store.outbox ++ x.records := h.appended.outbox

end Appended

end Handle

structure Call where
  ports : EnginePorts
  definition : WorkflowDefinition
  request : AuthorizedCommand

/-- The calls handled so far with their outcomes, from an empty store on. -/
inductive Handled {format : MessageFormat Wire.EventEnvelope} :
    List (Call × Except EngineError HandleOutcome) → MemoryState format → Prop
  | start : Handled [] {}
  | call {log store store' c outcome} (h : Handled log store)
      (hc : handle c.ports c.definition c.request store = (outcome, store')) : Handled (log ++ [(c, outcome)]) store'

section Runs
variable (format : MessageFormat Wire.EventEnvelope)

def handleAll (calls : List Call) : List (Call × Except EngineError HandleOutcome) × MemoryState format :=
  calls.foldl (fun run c =>
    (run.1 ++ [(c, (handle c.ports c.definition c.request run.2).1)],
      (handle c.ports c.definition c.request run.2).2)) ([], {})

theorem handled_handleAll (calls : List Call) : Handled (handleAll format calls).1 (handleAll format calls).2 := by
  induction calls using List.reverseRecOn with
  | nil => exact .start
  | append_singleton calls c ih =>
    simp only [handleAll, List.foldl_append, List.foldl_cons, List.foldl_nil]
    exact .call ih rfl

end Runs

namespace Sample

def principal : AuthorizedPrincipal where
  actorId := actor
  roles := []
  workloadId := "worker-1"
  policyVersion := .lit "policy-1"
  bundleSequence := 1
  revokeEpoch := 0
  matchedGrantIds := ["grant-1"]

def ports (configuration : ResolvedConfigSnapshot) : EnginePorts where
  authorize := fun _ => .ok principal
  resolve := fun _ => .ok configuration

end Sample

end BpmpPlatform
