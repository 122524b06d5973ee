import BpmpPlatform.Store.CommitPaths

/-! # Retries of a replicated commit

Attempts are prepared, applied and resolved in any order, each on a node that has reached some state of the log. The
two records of a scope are those of one request.
-/
namespace BpmpPlatform.Store
open Std Outcome Replication List

variable {events : MessageFormat Wire.EventEnvelope} {snapshots : MessageFormat Wire.WorkflowSnapshot} {C M : Type}

def outcomeResult : CommitOutcome → CommittedResult
  | .committed result => result
  | .duplicate result => result

section Runs

structure Proposal (C M : Type) where
  request : CommitRequest
  batch : PreparedAtomicBatch StoreKey (StoreValue C M)

structure Answer (C M : Type) where
  request : CommitRequest
  response : ApplyResponse (StoreValue C M)

/-- The state of the log, the states before it, and what the attempts have reached. -/
structure RetryRun (C M : Type) where
  state : RocksState StoreKey (StoreValue C M)
  past : List (RocksState StoreKey (StoreValue C M))
  proposals : List (Proposal C M)
  answers : List (Answer C M)
  outcomes : List (CommitRequest × Except StoreError CommitOutcome)

inductive RetryStep (M : Type)
  | prepare (node : Nat) (request : CommitRequest) (nonces : Nonces)
  | apply (proposal : Nat) (limits : StateMachineLimits) (metadata : StateMachineMetadata M)
  | resolve (node : Nat) (answer : Nat)

namespace RetryRun

def start (maxSnapshotBytes : Nat) : RetryRun C M := ⟨⟨∅, maxSnapshotBytes⟩, [], [], [], []⟩

variable (run : RetryRun C M)

def seen (node : Nat) : RocksState StoreKey (StoreValue C M) := run.past.getD node run.state

def answer (request : CommitRequest) (outcome : Except StoreError CommitOutcome) : RetryRun C M :=
  { run with outcomes := run.outcomes ++ [(request, outcome)] }

def prepared (request : CommitRequest) : Except StoreError (WorkflowCommitPreparation C M) → RetryRun C M
  | .error error => run.answer request (.error error)
  | .ok (.alreadyCommitted result) => run.answer request (.ok (.duplicate result))
  | .ok (.proposal batch) => { run with proposals := run.proposals ++ [⟨request, batch⟩] }

def applied (request : CommitRequest) :
    Except AtomicStorageError (ApplyResponse (StoreValue C M) × RocksState StoreKey (StoreValue C M)) → RetryRun C M
  | .error _ => run
  | .ok (response, state) =>
    { run with state := state, past := run.past ++ [run.state], answers := run.answers ++ [⟨request, response⟩] }

variable (crypto : PayloadCrypto (Plaintext events snapshots) C) (format : RocksFormat StoreKey (StoreValue C M) M)

def step : RetryStep M → RetryRun C M
  | .prepare node request nonces =>
    run.prepared request (prepareWorkflowBatch format (run.seen node).db request crypto nonces)
  | .apply proposal limits metadata =>
    match run.proposals[proposal]? with
    | none => run
    | some ⟨request, batch⟩ => run.applied request (run.state.apply format batch limits metadata)
  | .resolve node answer =>
    match run.answers[answer]? with
    | none => run
    | some ⟨request, response⟩ =>
      run.answer request (resolveWorkflowApply (run.seen node).db request response)

def steps (steps : List (RetryStep M)) : RetryRun C M := steps.foldl (fun run step => run.step crypto format step) run

def appliedAnswers : List (Answer C M) := run.answers.filter fun answer => answer.response.outcome == .applied

def appendedEvents : List (TenantId × String) :=
  run.appliedAnswers.flatMap fun answer =>
    answer.request.events.map fun event => (answer.request.tenantId, event.metadata.eventId)

end RetryRun

inductive Genuine (crypto : PayloadCrypto (Plaintext events snapshots) C) (format : RocksFormat StoreKey (StoreValue C M) M)
    (request : CommitRequest) : PreparedAtomicBatch StoreKey (StoreValue C M) → Prop
  | mk {nonces : Nonces} {db : Db C M} {encrypted : Encrypted C} {outboxTail : Nat}
      (h : Prepared crypto nonces request db encrypted outboxTail) :
      Genuine crypto format request (workflowBatch request format db encrypted outboxTail)

end Runs

variable {request : CommitRequest} {key : StoreKey}

section Effects
variable {crypto : PayloadCrypto (Plaintext events snapshots) C} {format : RocksFormat StoreKey (StoreValue C M) M}
  {nonces : Nonces} {db : Db C M} {encrypted : Encrypted C} {tail : Nat} {limits : StateMachineLimits}
  {metadata : StateMachineMetadata M} {state : RocksState StoreKey (StoreValue C M)}

theorem encrypted_ids (h : encryptRequest crypto nonces request = .ok encrypted) :
    encrypted.events.map (fun event => event.envelope.metadata.eventId) =
      request.events.map fun event => event.metadata.eventId :=
  map_eq_of_forall₂ (encryptRequest_spec h).events.flip fun _ _ hev => by rw [hev.envelope]

theorem exists_encrypted (h : encryptRequest crypto nonces request = .ok encrypted) {event : EventEnvelope}
    (hev : event ∈ request.events) :
    ∃ prepared ∈ encrypted.events, prepared.envelope.metadata.eventId = event.metadata.eventId := by
  have hin : event.metadata.eventId ∈ request.events.map fun event => event.metadata.eventId :=
    mem_map_of_mem hev
  rw [← encrypted_ids h] at hin
  exact mem_map.mp hin

theorem Prepared.ids_nodup (h : Prepared crypto nonces request db encrypted tail) :
    (request.events.map fun event => event.metadata.eventId).Nodup := by
  have hall : numbered tail encrypted.events = request.events.map fun event => event.metadata.eventId := by
    rw [numbered, encrypted_ids h.encrypts]
    have hl := congrArg List.length (encrypted_ids h.encrypts)
    rw [length_map, length_map] at hl
    have hf := h.fits
    apply take_of_length_le
    rw [length_map]
    omega
  have hd := h.distinct
  rw [hall, Store.distinct, decide_eq_true_eq] at hd
  exact hd.1

theorem dedup_mem_commitWrites {event : PreparedEvent C} (h : event ∈ encrypted.events) :
    (.put ⟨dedupCf, dedupStorageKey request.tenantId event.envelope.metadata.eventId⟩ .empty : DbWrite C M) ∈
      commitWrites request encrypted tail := by
  refine mem_append_left _ ?_
  generalize encrypted.events = prepared at h
  induction prepared generalizing tail with
  | nil => cases h
  | cons other prepared ih =>
    rw [appendedWrites, mem_append]
    rcases mem_cons.mp h with rfl | h
    · exact .inl (mem_cons_of_mem _ mem_cons_self)
    · exact .inr (ih h)

theorem getElem?_applied_scope (key : StoreKey) :
    (state.applied format (workflowBatch request format db encrypted tail) metadata).db[
        StorageKey.mk raftAppliedCommandsCf key]? =
      if resultKey request = key then
        some (format.encodeResponse (appliedResponse (workflowBatch request format db encrypted tail)))
      else state.db[StorageKey.mk raftAppliedCommandsCf key]? :=
  getElem?_write_scope (fun _ hin => workflowFamilies_spare _ (commitWrites_family hin)) _ _

theorem getElem?_applied_idempotency (key : StoreKey) :
    (state.applied format (workflowBatch request format db encrypted tail) metadata).db[
        StorageKey.mk idempotencyCf key]? =
      if resultKey request = key then some (.commandResult (commandResult request))
      else state.db[StorageKey.mk idempotencyCf key]? := by
  rw [getElem?_applied (show idempotencyCf ∉ bookkeepingFamilies by decide), getElem?_family]
  simp only [workflowBatch, PreparedAtomicBatch.new]
  rw [commitWrites_other (by decide)]
  cases encrypted.snapshot <;> exact getElem?_put ..

/-- Identities of events stay, and those of the request are added. -/
theorem isSome_applied_dedup
    (h : (∃ event ∈ encrypted.events, dedupStorageKey request.tenantId event.envelope.metadata.eventId = key) ∨
      state.db[StorageKey.mk dedupCf key]?.isSome = true) :
    (state.applied format (workflowBatch request format db encrypted tail) metadata).db[
      StorageKey.mk dedupCf key]?.isSome = true := by
  rw [getElem?_applied (show dedupCf ∉ bookkeepingFamilies by decide)]
  refine getElem?_applyWrites_of_forall (P := (·.isSome = true)) (fun write hin _ => commitWrites_puts write hin) ?_
  rcases h with ⟨event,hev,rfl⟩ | h
  · exact .inl ⟨_,dedup_mem_commitWrites hev,rfl⟩
  · exact .inr h

end Effects

section Invariant
variable {crypto : PayloadCrypto (Plaintext events snapshots) C} {format : RocksFormat StoreKey (StoreValue C M) M}

def Stored (db : Db C M) (request : CommitRequest) (payload : StoreValue C M) : Prop :=
  ∃ stored, payload = .commandResult stored ∧ stored.commandId = request.commandId.value ∧
    db[(⟨idempotencyCf, resultKey request⟩ : StorageKey StoreKey)]? = some (.commandResult stored)

def ScopesHeld (format : RocksFormat StoreKey (StoreValue C M) M) (db : Db C M) : Prop :=
  ∀ key : StoreKey, (db[(⟨raftAppliedCommandsCf, key⟩ : StorageKey StoreKey)]? = none ∧
      db[(⟨idempotencyCf, key⟩ : StorageKey StoreKey)]? = none) ∨
    ∃ (request : CommitRequest) (batch : PreparedAtomicBatch StoreKey (StoreValue C M)),
      batch.commandId = request.commandId.value ∧ batch.responsePayload = .commandResult (commandResult request) ∧
      db[(⟨raftAppliedCommandsCf, key⟩ : StorageKey StoreKey)]? = some (format.encodeResponse (appliedResponse batch)) ∧
      db[(⟨idempotencyCf, key⟩ : StorageKey StoreKey)]? = some (.commandResult (commandResult request))

/-- What holds of the attempts whatever was done so far. -/
structure RetryHeld (crypto : PayloadCrypto (Plaintext events snapshots) C)
    (format : RocksFormat StoreKey (StoreValue C M) M) (run : RetryRun C M) : Prop where
  genuine : ∀ proposal ∈ run.proposals, Genuine crypto format proposal.request proposal.batch
  scopes : ScopesHeld format run.state.db
  once : (run.appliedAnswers.map fun answer => resultKey answer.request).Nodup
  taken : ∀ answer ∈ run.appliedAnswers,
    run.state.db[(⟨raftAppliedCommandsCf, resultKey answer.request⟩ : StorageKey StoreKey)]?.isSome = true
  appended : run.appendedEvents.Nodup
  recorded : ∀ event ∈ run.appendedEvents,
    run.state.db[(⟨dedupCf, dedupStorageKey event.1 event.2⟩ : StorageKey StoreKey)]?.isSome = true
  answers : ∀ answer ∈ run.answers, answer.response.outcome = .applied ∨ answer.response.outcome = .duplicate →
    Stored run.state.db answer.request answer.response.responsePayload
  outcomes : ∀ request outcome, (request, .ok outcome) ∈ run.outcomes → ∃ stored,
    Stored run.state.db request (.commandResult stored) ∧ stored.result = .ok (outcomeResult outcome)
  past : ∀ old ∈ run.past, ∀ (key : StoreKey) (value : StoreValue C M),
    old.db[(⟨idempotencyCf, key⟩ : StorageKey StoreKey)]? = some value →
    run.state.db[(⟨idempotencyCf, key⟩ : StorageKey StoreKey)]? = some value

variable {run : RetryRun C M}

theorem RetryHeld.start (maxSnapshotBytes : Nat) : RetryHeld crypto format (.start maxSnapshotBytes) := by
  exact ⟨forall_mem_nil _,fun _ => .inl ⟨rfl,rfl⟩,.nil,forall_mem_nil _,.nil,forall_mem_nil _,forall_mem_nil _,
    fun _ _ hin => absurd hin not_mem_nil,forall_mem_nil _⟩

variable {node : Nat} {response : ApplyResponse (StoreValue C M)} {db : Db C M} {result : CommittedResult}
  {batch : PreparedAtomicBatch StoreKey (StoreValue C M)}

section
variable (h : RetryHeld crypto format run)
include h

theorem RetryHeld.seen {value : StoreValue C M}
    (hv : (run.seen node).db[StorageKey.mk idempotencyCf key]? = some value) :
    run.state.db[StorageKey.mk idempotencyCf key]? = some value := by
  unfold RetryRun.seen at hv
  rw [getD_eq_getElem?_getD] at hv
  cases hold : run.past[node]? with
  | none =>
    rw [hold] at hv
    exact hv
  | some old =>
    rw [hold] at hv
    exact h.past old (mem_of_getElem? hold) key value hv

theorem RetryHeld.advance (state : RocksState StoreKey (StoreValue C M)) (hss : ScopesHeld format state.db)
    (hr : ∀ (key : StoreKey) (value : StoreValue C M),
      run.state.db[StorageKey.mk idempotencyCf key]? = some value →
      state.db[StorageKey.mk idempotencyCf key]? = some value)
    (ht : ∀ key : StoreKey, run.state.db[StorageKey.mk raftAppliedCommandsCf key]?.isSome = true →
      state.db[StorageKey.mk raftAppliedCommandsCf key]?.isSome = true)
    (hrd : ∀ key : StoreKey, run.state.db[StorageKey.mk dedupCf key]?.isSome = true →
      state.db[StorageKey.mk dedupCf key]?.isSome = true) :
    RetryHeld crypto format { run with state := state, past := run.past ++ [run.state] } := by
  refine ⟨h.genuine,hss,h.once,fun answer hin => ht _ (h.taken answer hin),h.appended,
    fun event hin => hrd _ (h.recorded event hin),fun answer hin ho => ?_,fun request outcome hin => ?_,
    fun old hin key value hv => ?_⟩
  · obtain ⟨stored,hp,hcm,hst⟩ := h.answers answer hin ho
    exact ⟨stored,hp,hcm,hr _ _ hst⟩
  · obtain ⟨stored,⟨_,hp,hcm,hst⟩,hres⟩ := h.outcomes request outcome hin
    exact ⟨stored,⟨_,hp,hcm,hr _ _ hst⟩,hres⟩
  · rcases mem_append.mp hin with hin | hin
    · exact hr _ _ (h.past old hin key value hv)
    · rw [mem_singleton.mp hin] at hv
      exact hr _ _ hv

theorem RetryHeld.answer {outcome : Except StoreError CommitOutcome} (hst : ∀ done, outcome = .ok done → ∃ stored,
      Stored run.state.db request (.commandResult stored) ∧ stored.result = .ok (outcomeResult done)) :
    RetryHeld crypto format (run.answer request outcome) := by
  refine { h with outcomes := fun other done hin => ?_ }
  rcases mem_append.mp hin with hin | hin
  · exact h.outcomes other done hin
  · obtain ⟨rfl,rfl⟩ := Prod.mk.inj (mem_singleton.mp hin)
    exact hst done rfl

end

theorem appliedAnswers_refused (ho : response.outcome ≠ .applied) :
    ({ run with answers := run.answers ++ [⟨request, response⟩] } : RetryRun C M).appliedAnswers = run.appliedAnswers := by
  unfold RetryRun.appliedAnswers
  rw [filter_append]
  simp [ho]

theorem appliedAnswers_accepted (ho : response.outcome = .applied) :
    ({ run with answers := run.answers ++ [⟨request, response⟩] } : RetryRun C M).appliedAnswers =
      run.appliedAnswers ++ [⟨request, response⟩] := by
  unfold RetryRun.appliedAnswers
  rw [filter_append]
  simp [ho]

section
variable (h : RetryHeld crypto format run)
include h

theorem RetryHeld.answered (hst : response.outcome = .applied ∨ response.outcome = .duplicate →
      Stored run.state.db request response.responsePayload) : ∀ answer ∈ run.answers ++ [⟨request, response⟩],
      answer.response.outcome = .applied ∨ answer.response.outcome = .duplicate →
      Stored run.state.db answer.request answer.response.responsePayload :=
  forall_mem_append.mpr ⟨h.answers,forall_mem_singleton.mpr hst⟩

theorem RetryHeld.refuse (ho : response.outcome ≠ .applied)
    (hst : response.outcome = .duplicate → Stored run.state.db request response.responsePayload) :
    RetryHeld crypto format { run with answers := run.answers ++ [⟨request, response⟩] } := by
  refine ⟨h.genuine,h.scopes,?_,?_,?_,?_,h.answered fun hd => hst (hd.resolve_left ho),h.outcomes,h.past⟩
  · rw [appliedAnswers_refused ho]
    exact h.once
  · rw [appliedAnswers_refused ho]
    exact h.taken
  · rw [RetryRun.appendedEvents, appliedAnswers_refused ho]
    exact h.appended
  · rw [RetryRun.appendedEvents, appliedAnswers_refused ho]
    exact h.recorded

/-- The answer to a batch that was applied is added, with a scope and events that are new. -/
theorem RetryHeld.accept (ho : response.outcome = .applied)
    (hst : Stored run.state.db request response.responsePayload)
    (hs : resultKey request ∉ run.appliedAnswers.map fun answer => resultKey answer.request)
    (ht : run.state.db[StorageKey.mk raftAppliedCommandsCf (resultKey request)]?.isSome = true)
    (hids : (request.events.map fun event => event.metadata.eventId).Nodup)
    (hnew : ∀ event ∈ request.events, (request.tenantId, event.metadata.eventId) ∉ run.appendedEvents)
    (hrd : ∀ event ∈ request.events,
      run.state.db[StorageKey.mk dedupCf (dedupStorageKey request.tenantId event.metadata.eventId)]?.isSome = true) :
    RetryHeld crypto format { run with answers := run.answers ++ [⟨request, response⟩] } := by
  have hap : ({ run with answers := run.answers ++ [⟨request, response⟩] } : RetryRun C M).appendedEvents =
      run.appendedEvents ++ request.events.map fun event => (request.tenantId, event.metadata.eventId) := by
    rw [RetryRun.appendedEvents, appliedAnswers_accepted ho, flatMap_append, flatMap_singleton]
    rfl
  refine ⟨h.genuine,h.scopes,?_,?_,?_,?_,h.answered fun _ => hst,h.outcomes,h.past⟩
  · rw [appliedAnswers_accepted ho, map_append, nodup_append]
    refine ⟨h.once,nodup_singleton _,?_⟩
    rintro key hin other hoth rfl
    rw [map_singleton, mem_singleton] at hoth
    exact hs (hoth ▸ hin)
  · rw [appliedAnswers_accepted ho]
    exact forall_mem_append.mpr ⟨h.taken,forall_mem_singleton.mpr ht⟩
  · rw [hap, nodup_append]
    refine ⟨h.appended,?_,?_⟩
    · refine List.Nodup.of_map Prod.snd ?_
      rw [map_map]
      exact hids
    · rintro pair hin other hoth rfl
      obtain ⟨event,hev,rfl⟩ := mem_map.mp hoth
      exact hnew event hev hin
  · rw [hap]
    exact forall_mem_append.mpr ⟨h.recorded,forall_mem_map.mpr hrd⟩

/-- A batch of a request is refused and moves the position, or it is applied. -/
theorem RetryHeld.apply_cases (hg : Genuine crypto format request batch) (limits : StateMachineLimits)
    (metadata : StateMachineMetadata M) :
    (∃ response, response.commandId = request.commandId.value ∧ response.outcome ≠ .applied ∧
      (response.outcome = .duplicate → Stored run.state.db request response.responsePayload) ∧
      run.state.apply format batch limits metadata =
        .ok (response, run.state.write [putRaftStateMetadata format metadata])) ∨
    Applies format limits run.state.db batch ∧
      run.state.apply format batch limits metadata = .ok (appliedResponse batch, run.state.applied format batch metadata) := by
  obtain @⟨nonces,db,encrypted,tail,hpr⟩ := hg
  have hc : ∀ condition ∈ (workflowBatch request format db encrypted tail).preconditions,
      condition.storageKey.columnFamily ∈ columnFamilies :=
    fun condition hin => workflowFamilies_opened _ (commitConditions_family hin)
  have hm : ∀ mutation ∈ (workflowBatch request format db encrypted tail).mutations,
      mutation.address.columnFamily ∈ columnFamilies :=
    fun mutation hin => workflowFamilies_opened _ (commitWrites_family hin)
  -- what is recorded for the scope decodes to the answer of the one request that took it
  have hde : ∀ recorded, Replication.Recorded format run.state.db (resultKey request) recorded →
      ∃ other : PreparedAtomicBatch StoreKey (StoreValue C M), recorded = .ok (appliedResponse other) ∧
        (other.commandId = request.commandId.value → Stored run.state.db request other.responsePayload) := by
    rintro recorded ⟨hb⟩
    rcases h.scopes (resultKey request) with ⟨hn,_⟩ | ⟨winner,other,hcm,hp,hs,hr⟩
    · rw [hn] at hb
      cases hb
    · rw [← Option.some.inj (hs.symm.trans hb), format.decode_encodeResponse]
      exact ⟨other,rfl,fun hsa => ⟨_,hp,hcm.symm.trans hsa,hr⟩⟩
  rcases rocks_apply_total limits metadata run.state hc hm with
    ⟨_,error,hrd,_⟩ | ⟨_,previous,hrd,han,hap⟩ | ⟨_,response,hcm,ho,hap⟩ |
    ⟨happ,hap⟩
  · obtain ⟨_,he,_⟩ := hde _ hrd
    cases he
  · obtain ⟨other,hsa,hst⟩ := hde _ hrd
    obtain rfl : previous = appliedResponse other := Except.ok.inj hsa
    exact .inl ⟨{ appliedResponse other with outcome := .duplicate },han.1,nofun,
      fun _ => hst han.1,hap⟩
  · refine .inl ⟨response,hcm,?_,?_,hap⟩
    · rcases ho with ⟨index,ho⟩ | ⟨reason,ho⟩ <;> simp [ho]
    · rcases ho with ⟨index,ho⟩ | ⟨reason,ho⟩ <;> simp [ho]
  · exact .inr ⟨happ,hap⟩

end

theorem RetryHeld.move (h : RetryHeld crypto format run) (metadata : StateMachineMetadata M) :
    RetryHeld crypto format { run with
      state := run.state.write [putRaftStateMetadata format metadata], past := run.past ++ [run.state] } := by
  have hr : ∀ address : StorageKey StoreKey, address.columnFamily ≠ raftStateMetaCf →
      (run.state.write [putRaftStateMetadata format metadata]).db[address]? = run.state.db[address]? :=
    fun address hf => write_position hf
  refine h.advance _ (fun key => ?_) ?_ ?_ ?_
  · rw [hr ⟨raftAppliedCommandsCf, key⟩ appliedCommands_ne_stateMeta,
      hr ⟨idempotencyCf, key⟩ (show idempotencyCf ≠ raftStateMetaCf by decide)]
    exact h.scopes key
  · intro key value hv
    rw [hr ⟨idempotencyCf, key⟩ (show idempotencyCf ≠ raftStateMetaCf by decide)]
    exact hv
  · intro key hs
    rw [hr ⟨raftAppliedCommandsCf, key⟩ appliedCommands_ne_stateMeta]
    exact hs
  · intro key hs
    rw [hr ⟨dedupCf, key⟩ (show dedupCf ≠ raftStateMetaCf by decide)]
    exact hs

theorem RetryHeld.commit (h : RetryHeld crypto format run) {nonces : Nonces}
    {encrypted : Encrypted C} {tail : Nat} (hp : Prepared crypto nonces request db encrypted tail)
    {limits : StateMachineLimits} (metadata : StateMachineMetadata M)
    (hap : Applies format limits run.state.db (workflowBatch request format db encrypted tail)) :
    RetryHeld crypto format { run with
      state := run.state.applied format (workflowBatch request format db encrypted tail) metadata
      past := run.past ++ [run.state]
      answers := run.answers ++ [⟨request, appliedResponse (workflowBatch request format db encrypted tail)⟩] } := by
  have hf : run.state.db[StorageKey.mk raftAppliedCommandsCf (resultKey request)]? = none := hap.fresh
  have huns : run.state.db[StorageKey.mk idempotencyCf (resultKey request)]? = none :=
    satisfied_missing_iff.mp (hap.satisfied _ result_mem_commitConditions)
  have hun : ∀ event ∈ request.events,
      run.state.db[StorageKey.mk dedupCf (dedupStorageKey request.tenantId event.metadata.eventId)]? = none := by
    intro event hev
    obtain ⟨prepared,hin,hid⟩ := exists_encrypted hp.encrypts hev
    rw [← hid]
    exact satisfied_missing_iff.mp (hap.satisfied _ (dedup_mem_commitConditions hin))
  refine (h.advance (run.state.applied format (workflowBatch request format db encrypted tail) metadata)
    ?_ ?_ ?_ ?_).accept rfl ⟨_,rfl,rfl,?_⟩ ?_ ?_ hp.ids_nodup ?_ ?_
  · intro key
    rw [getElem?_applied_scope, getElem?_applied_idempotency]
    by_cases hkey : resultKey request = key
    · rw [if_pos hkey, if_pos hkey]
      exact .inr ⟨request,_,rfl,rfl,rfl,rfl⟩
    · rw [if_neg hkey, if_neg hkey]
      exact h.scopes key
  · intro key value hv
    have ho : resultKey request ≠ key := by
      rintro rfl
      rw [huns] at hv
      cases hv
    rw [getElem?_applied_idempotency, if_neg ho]
    exact hv
  · intro key hs
    rw [getElem?_applied_scope]
    split
    · rfl
    · exact hs
  · exact fun key hs => isSome_applied_dedup (.inr hs)
  · rw [getElem?_applied_idempotency, if_pos rfl]
  · intro hin
    obtain ⟨answer,ha,hkey⟩ := mem_map.mp hin
    have ht := h.taken answer ha
    rw [hkey, hf] at ht
    cases ht
  · rw [getElem?_applied_scope, if_pos rfl]
    rfl
  · intro event hev hin
    have hrd := h.recorded _ hin
    rw [hun event hev] at hrd
    cases hrd
  · intro event hev
    obtain ⟨prepared,hin,hid⟩ := exists_encrypted hp.encrypts hev
    exact isSome_applied_dedup (.inl ⟨prepared,hin,by rw [hid]⟩)

theorem loadResult_stored
    (h : loadResult db request.tenantId request.actorId request.idempotencyKey request.commandId = .ok (some result)) :
    ∃ stored, Stored db request (.commandResult stored) ∧ stored.result = .ok result := by
  unfold loadResult at h
  rw [← resultKey] at h
  cases hv : db[StorageKey.mk idempotencyCf (resultKey request)]? with
  | none =>
    rw [hv] at h
    cases h
  | some value =>
    rw [hv] at h
    cases value with
    | commandResult stored =>
      simp only [StoreValue.toCommandResult, ok_bind, bind_eq_ok, ensure_eq_ok, beq_iff_eq] at h
      obtain ⟨_,hcm,found,hf,⟨⟩⟩ := h
      exact ⟨stored,⟨stored,rfl,hcm,hv⟩,hf⟩
    | _ => cases h

section
variable (h : RetryHeld crypto format run)
include h

theorem RetryHeld.found
    (hr : loadResult (run.seen node).db request.tenantId request.actorId request.idempotencyKey request.commandId =
      .ok (some result)) :
    ∃ stored, Stored run.state.db request (.commandResult stored) ∧ stored.result = .ok result := by
  obtain ⟨stored,⟨_,hp,hcm,hv⟩,hst⟩ := loadResult_stored hr
  exact ⟨stored,⟨_,hp,hcm,h.seen hv⟩,hst⟩

theorem RetryHeld.resolved {answer : Answer C M} (hin : answer ∈ run.answers) {outcome : CommitOutcome}
    (ho : resolveWorkflowApply (run.seen node).db answer.request answer.response = .ok outcome) :
    ∃ stored, Stored run.state.db answer.request (.commandResult stored) ∧ stored.result = .ok (outcomeResult outcome) := by
  have hrec : reconcileApply (run.seen node).db answer.request = .ok outcome →
      ∃ stored, Stored run.state.db answer.request (.commandResult stored) ∧
        stored.result = .ok (outcomeResult outcome) := by
    intro hre
    simp only [reconcileApply, bind_eq_ok] at hre
    obtain ⟨found,hf,hre⟩ := hre
    cases found with
    | some =>
      obtain rfl := pure_eq_ok.mp hre
      exact h.found hf
    | none =>
      simp only [bind_eq_ok] at hre
      obtain ⟨_,_,_,_,hre⟩ := hre
      cases hre
  have hap : ∀ result, answer.response.outcome = .applied ∨ answer.response.outcome = .duplicate →
      appliedResult answer.request answer.response = .ok result →
      ∃ stored, Stored run.state.db answer.request (.commandResult stored) ∧ stored.result = .ok result := by
    intro result hd hr
    obtain ⟨stored,hp,hcm,hst⟩ := h.answers answer hin hd
    rw [appliedResult, hp, StoreValue.toCommandResult, ok_bind, bind_eq_ok] at hr
    obtain ⟨_,_,hr⟩ := hr
    exact ⟨stored,⟨stored,rfl,hcm,hst⟩,hr⟩
  simp only [resolveWorkflowApply, bind_eq_ok] at ho
  obtain ⟨_,_,ho⟩ := ho
  cases hd : answer.response.outcome with
  | applied =>
    simp only [hd, bind_eq_ok] at ho
    obtain ⟨result,hr,⟨⟩⟩ := ho
    exact hap result (.inl hd) hr
  | duplicate =>
    simp only [hd, bind_eq_ok] at ho
    obtain ⟨result,hr,⟨⟩⟩ := ho
    exact hap result (.inr hd) hr
  | preconditionFailed | rejected =>
    simp only [hd] at ho
    exact hrec ho

theorem RetryHeld.propose (hg : Genuine crypto format request batch) :
    RetryHeld crypto format { run with proposals := run.proposals ++ [⟨request, batch⟩] } :=
  { h with genuine := forall_mem_append.mpr ⟨h.genuine,forall_mem_singleton.mpr hg⟩ }

end

theorem RetryHeld.step (h : RetryHeld crypto format run) (step : RetryStep M) :
    RetryHeld crypto format (run.step crypto format step) := by
  cases step with
  | prepare node request nonces =>
    rw [RetryRun.step]
    cases hp : prepareWorkflowBatch format (run.seen node).db request crypto nonces with
    | error => exact h.answer fun _ hd => nomatch hd
    | ok =>
      rcases prepareWorkflowBatch_cases hp with ⟨result,hst,rfl⟩ | ⟨encrypted,tail,hf,rfl⟩
      · refine h.answer fun done hd => ?_
        obtain rfl := Except.ok.inj hd
        exact h.found hst
      · exact h.propose (.mk hf)
  | apply proposal limits metadata =>
    rw [RetryRun.step]
    cases hpr : run.proposals[proposal]? with
    | none => exact h
    | some found =>
      obtain ⟨request,batch⟩ := found
      have hg : Genuine crypto format request batch := h.genuine _ (mem_of_getElem? hpr)
      rcases h.apply_cases hg limits metadata with ⟨response,_,ho,hst,hap⟩ | ⟨happ,hap⟩
      · simp only [hap]
        refine (h.move metadata).refuse ho fun hd => ?_
        obtain ⟨stored,hpay,hcm,hv⟩ := hst hd
        refine ⟨stored,hpay,hcm,?_⟩
        rw [← hv]
        exact write_position (show idempotencyCf ≠ raftStateMetaCf by decide)
      · simp only [hap]
        obtain ⟨hp⟩ := hg
        exact h.commit hp metadata happ
  | resolve node answer =>
    rw [RetryRun.step]
    cases ha : run.answers[answer]? with
    | none => exact h
    | some => exact h.answer fun done hd => h.resolved (mem_of_getElem? ha) hd

theorem RetryHeld.steps (h : RetryHeld crypto format run) (steps : List (RetryStep M)) :
    RetryHeld crypto format (run.steps crypto format steps) := by
  induction steps generalizing run with
  | nil => exact h
  | cons step steps ih => exact ih (h.step step)

end Invariant

end BpmpPlatform.Store
