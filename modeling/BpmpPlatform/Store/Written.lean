import BpmpPlatform.Store.Commit

/-! # What a commit writes

Both paths write the same list of records. The loops over the events are said once by an equation each, and the writes
are then read off family by family.
-/
namespace BpmpPlatform.Store
open Std Outcome Replication List

variable {events : MessageFormat Wire.EventEnvelope} {snapshots : MessageFormat Wire.WorkflowSnapshot} {C M : Type}
  {crypto : PayloadCrypto (Plaintext events snapshots) C} {request : CommitRequest}

section Encryption
variable {nonces nonces' : Nonces} {plain : Plaintext events snapshots} {scope : KeyScope} {key : StoreKey}

theorem encryptRecord_eq_ok {record : EncryptedPayload C} : encryptRecord crypto nonces scope key plain = .ok record ↔
      crypto.encrypt (nonces key) scope key plain = .ok record :=
  mapError_eq_ok

theorem encryptRecord_error {error : StoreError} (h : encryptRecord crypto nonces scope key plain = .error error) :
    error = .cryptoUnavailable := by
  unfold encryptRecord at h
  cases hen : crypto.encrypt (nonces key) scope key plain with
  | ok =>
    rw [hen] at h
    cases h
  | error =>
    rw [hen] at h
    injection h with h
    exact h.symm

structure PreparedEvent.Encrypts (crypto : PayloadCrypto (Plaintext events snapshots) C) (request : CommitRequest)
    (event : EventEnvelope) (prepared : PreparedEvent C) : Prop where
  envelope : prepared.envelope = event
  key : prepared.key = eventStorageKey request.tenantId request.instanceId event.sequence
  decrypted : crypto.decrypt prepared.key prepared.record = .ok (.event (EventCodec.encode events event))

theorem prepareEncryptedEvent_spec {event : EventEnvelope} {prepared : PreparedEvent C}
    (h : prepareEncryptedEvent crypto nonces request event = .ok prepared) : prepared.Encrypts crypto request event := by
  simp only [prepareEncryptedEvent, bind_eq_ok, encryptRecord_eq_ok] at h
  obtain ⟨record,hen,⟨⟩⟩ := h
  exact ⟨rfl,rfl,crypto.decrypt_encrypt hen⟩

structure Encrypted.Of (crypto : PayloadCrypto (Plaintext events snapshots) C) (request : CommitRequest)
    (encrypted : Encrypted C) : Prop where
  events : List.Forall₂ (PreparedEvent.Encrypts crypto request) request.events encrypted.events
  noSnapshot : request.snapshot = none → encrypted.snapshot = none
  snapshot : ∀ snapshot, request.snapshot = some snapshot → ∃ record,
    encrypted.snapshot = some (snapshotStorageKey request.tenantId request.instanceId, snapshot.state.sequence, record) ∧
    crypto.decrypt (snapshotStorageKey request.tenantId request.instanceId) record =
      .ok (.snapshot (SnapshotCodec.encode snapshots snapshot))
  auditKey : encrypted.audit.1 =
    authorizationAuditStorageKey request.authorizationAudit.tenantId request.authorizationAudit.commandId
  audit : crypto.decrypt encrypted.audit.1 encrypted.audit.2 =
    .ok (.authorizationAudit (auditRecord request.authorizationAudit))

theorem encryptRequest_spec {encrypted : Encrypted C} (h : encryptRequest crypto nonces request = .ok encrypted) :
    encrypted.Of crypto request := by
  simp only [encryptRequest, bind_eq_ok] at h
  obtain ⟨preparedEvents,hes,preparedSnapshot,hsn,preparedAudit,ha,⟨⟩⟩ := h
  simp only [prepareEncryptedAuthorizationAudit, bind_eq_ok, encryptRecord_eq_ok] at ha
  obtain ⟨auditPayload,hau,⟨⟩⟩ := ha
  refine ⟨?_,?_,?_,rfl,crypto.decrypt_encrypt hau⟩
  · exact (collectAll_eq_ok.mp hes).imp fun event prepared => prepareEncryptedEvent_spec
  · intro hn
    simp only [prepareEncryptedSnapshot, hn] at hsn
    injection hsn with hsn
    exact hsn.symm
  · intro snapshot hs
    simp only [prepareEncryptedSnapshot, hs, bind_eq_ok, encryptRecord_eq_ok] at hsn
    obtain ⟨record,hr,⟨⟩⟩ := hsn
    exact ⟨record,rfl,crypto.decrypt_encrypt hr⟩

end Encryption

section Writes
variable (request : CommitRequest)

def eventWrites (outboxSequence : Nat) (prepared : PreparedEvent C) : List (DbWrite C M) :=
  [.put ⟨eventsCf, prepared.key⟩ (.event prepared.record),
    .put ⟨dedupCf, dedupStorageKey request.tenantId prepared.envelope.metadata.eventId⟩ .empty,
    .put ⟨outboxCf, outboxStorageKey outboxSequence⟩
      (.outboxEntry (outboxEntry request prepared.envelope outboxSequence))]

def appendedWrites : Nat → List (PreparedEvent C) → List (DbWrite C M)
  | _, [] => []
  | outboxTail, prepared :: rest =>
    eventWrites request (outboxTail + 1) prepared ++ appendedWrites (outboxTail + 1) rest

def snapshotWrites : Option (StoreKey × Nat × EncryptedPayload C) → List (DbWrite C M)
  | some (key, sequence, record) => [.put ⟨snapshotsCf, key⟩ (.snapshot sequence record)]
  | none => []

def commitWrites (encrypted : Encrypted C) (outboxTail : Nat) : List (DbWrite C M) :=
  appendedWrites request outboxTail encrypted.events ++
    .put ⟨outboxMetaCf, outboxTailKey⟩ (.number (outboxTail + encrypted.events.length)) ::
      (snapshotWrites encrypted.snapshot ++
        [.put ⟨streamMetaCf, streamMetaKey request.tenantId request.instanceId⟩ (.number request.result.version),
          .put ⟨idempotencyCf, resultKey request⟩ (.commandResult (commandResult request)),
          .put ⟨authorizationAuditCf, encrypted.audit.1⟩ (.authorizationAudit encrypted.audit.2)])

def recorded (db : Db C M) (eventId : String) : Bool :=
  db[(⟨dedupCf, dedupStorageKey request.tenantId eventId⟩ : StorageKey StoreKey)]?.isSome

/-- The identities of the events that are looked at before the cursors run out. -/
def numbered (outboxTail : Nat) (prepared : List (PreparedEvent C)) : List String :=
  (prepared.map fun event => event.envelope.metadata.eventId).take (u64Max - outboxTail + 1)

section Numbering
variable {tail : Nat} {event : PreparedEvent C} {prepared : List (PreparedEvent C)}

theorem fits_cons (h : tail + 1 ≤ u64Max) :
    (event :: prepared).length ≤ u64Max - tail ↔ prepared.length ≤ u64Max - (tail + 1) := by
  rw [length_cons]
  omega

theorem not_fits_cons (h : ¬tail + 1 ≤ u64Max) : ¬(event :: prepared).length ≤ u64Max - tail := by
  rw [length_cons]
  omega

theorem numbered_cons (h : tail + 1 ≤ u64Max) :
    numbered tail (event :: prepared) = event.envelope.metadata.eventId :: numbered (tail + 1) prepared := by
  have hr : u64Max - tail = u64Max - (tail + 1) + 1 := by omega
  rw [numbered, map_cons, take_succ_cons, hr]
  rfl

theorem numbered_cons_full (h : ¬tail + 1 ≤ u64Max) :
    numbered tail (event :: prepared) = [event.envelope.metadata.eventId] := by
  have hr : u64Max - tail = 0 := by omega
  rw [numbered, map_cons, take_succ_cons, hr, take_zero]

end Numbering

/-- The direct loop finds a recorded identity, runs out of cursors, or has the writes. -/
theorem commitEvents_eq (db : Db C M) (tail : Nat) (prepared : List (PreparedEvent C)) :
    commitEvents db request tail prepared =
      if (numbered tail prepared).any (recorded request db) then .error .duplicateEvent
      else if prepared.length ≤ u64Max - tail then
        .ok (appendedWrites request tail prepared, tail + prepared.length)
      else .error (.unavailable "outbox sequence overflow") := by
  induction prepared generalizing tail with
  | nil => simp [commitEvents, numbered, appendedWrites]
  | cons event prepared ih =>
    have hn : db[StorageKey.mk dedupCf (dedupStorageKey request.tenantId event.envelope.metadata.eventId)]?.isNone =
        !recorded request db event.envelope.metadata.eventId := by
      rw [recorded, Option.not_isSome]
    simp only [commitEvents, hn]
    cases hrd : recorded request db event.envelope.metadata.eventId with
    | true =>
      have hfo : (numbered tail (event :: prepared)).any (recorded request db) = true := by
        rw [numbered, map_cons, take_succ_cons, any_cons, hrd]
        rfl
      rw [if_pos hfo]
      rfl
    | false =>
      by_cases hr : tail + 1 ≤ u64Max
      · rw [ih, numbered_cons hr, any_cons, hrd, Bool.false_or]
        simp only [fits_cons hr, ensure, hr, decide_true, Bool.not_false, if_true, ok_bind]
        split
        · rfl
        · split
          · simp only [ok_bind, appendedWrites, eventWrites, length_cons, cons_append, nil_append,
              Nat.add_assoc, Nat.add_comm 1]
            rfl
          · rfl
      · rw [numbered_cons_full hr, any_cons, hrd, if_neg (not_fits_cons hr)]
        simp only [ensure, hr, decide_false, Bool.not_false, if_true, ok_bind, any_nil, Bool.or_false,
          Bool.false_eq_true, if_false]
        rfl

def appendedConditions : Nat → List (PreparedEvent C) → List (Precondition StoreKey)
  | _, [] => []
  | outboxTail, prepared :: rest =>
    [missingPrecondition eventsCf prepared.key,
      missingPrecondition dedupCf (dedupStorageKey request.tenantId prepared.envelope.metadata.eventId),
      missingPrecondition outboxCf (outboxStorageKey (outboxTail + 1))] ++ appendedConditions (outboxTail + 1) rest

def distinct (eventIds ids : List String) : Bool := decide (ids.Nodup ∧ ∀ eventId ∈ ids, eventId ∉ eventIds)

theorem distinct_cons (eventIds : List String) (eventId : String) (ids : List String) :
    distinct eventIds (eventId :: ids) = (!eventIds.contains eventId && distinct (eventId :: eventIds) ids) := by
  rw [Bool.eq_iff_iff]
  simp only [distinct, decide_eq_true_eq, nodup_cons, Bool.and_eq_true, Bool.not_eq_true', contains_eq_mem,
    decide_eq_false_iff_not, mem_cons, not_or, forall_eq_or_imp]
  constructor
  · rintro ⟨⟨hnew,hnd⟩,hun,hr⟩
    exact ⟨hun,hnd,fun other hin => ⟨fun heq => hnew (heq ▸ hin),hr other hin⟩⟩
  · rintro ⟨hun,hnd,hr⟩
    exact ⟨⟨fun hin => (hr eventId hin).1 rfl,hnd⟩,hun,fun other hin => (hr other hin).2⟩

/-- The replicated loop finds a repeated identity, runs out of cursors, or has the conditions and the writes. -/
theorem prepareEvents_eq (eventIds : List String) (tail : Nat) (prepared : List (PreparedEvent C)) :
    prepareEvents (M := M) request eventIds tail prepared =
      if distinct eventIds (numbered tail prepared) then
        if prepared.length ≤ u64Max - tail then
          .ok (appendedConditions request tail prepared, appendedWrites request tail prepared,
            tail + prepared.length)
        else .error (.unavailable "outbox sequence overflow")
      else .error .duplicateEvent := by
  induction prepared generalizing eventIds tail with
  | nil => simp [prepareEvents, numbered, appendedConditions, appendedWrites, distinct]
  | cons event prepared ih =>
    simp only [prepareEvents]
    cases hs : eventIds.contains event.envelope.metadata.eventId with
    | true =>
      have hre : distinct eventIds (numbered tail (event :: prepared)) = false := by
        rw [numbered, map_cons, take_succ_cons, distinct_cons, hs]
        rfl
      rw [hre]
      rfl
    | false =>
      by_cases hr : tail + 1 ≤ u64Max
      · rw [ih, numbered_cons hr, distinct_cons, hs]
        simp only [fits_cons hr, ensure, hr, decide_true, if_true, ok_bind, Bool.not_false, Bool.true_and]
        split
        · split
          · simp only [ok_bind, appendedConditions, appendedWrites, eventWrites, length_cons, cons_append,
              nil_append, Nat.add_assoc, Nat.add_comm 1]
            rfl
          · rfl
        · rfl
      · rw [numbered_cons_full hr, distinct_cons, hs, if_neg (not_fits_cons hr)]
        have hnil : distinct (event.envelope.metadata.eventId :: eventIds) [] = true := by simp [distinct]
        simp only [hnil, ensure, hr, decide_false, if_true, ok_bind, Bool.not_false, Bool.and_true,
          Bool.false_eq_true, if_false]
        rfl

theorem buildCommitBatch_eq (db : Db C M) (encrypted : Encrypted C) (tail : Nat) :
    buildCommitBatch db request encrypted tail =
      if db[StorageKey.mk authorizationAuditCf encrypted.audit.1]?.isNone then
        if (numbered tail encrypted.events).any (recorded request db) then .error .duplicateEvent
        else if encrypted.events.length ≤ u64Max - tail then .ok (commitWrites request encrypted tail)
        else .error (.unavailable "outbox sequence overflow")
      else .error .invalidAuthorizationAudit := by
  simp only [buildCommitBatch, commitEvents_eq, ensure]
  split
  · rw [ok_bind]
    split
    · rfl
    · split
      · cases hsn : encrypted.snapshot <;> simp [commitWrites, hsn, snapshotWrites, resultKey]
      · rfl
  · rfl

variable (format : RocksFormat StoreKey (StoreValue C M) M)

def snapshotConditions (db : Db C M) : Option (StoreKey × Nat × EncryptedPayload C) → List (Precondition StoreKey)
  | some (key, _, _) => [currentDbPrecondition format db snapshotsCf key]
  | none => []

def commitConditions (db : Db C M) (encrypted : Encrypted C) (outboxTail : Nat) : List (Precondition StoreKey) :=
  currentValuePrecondition format streamMetaCf (streamMetaKey request.tenantId request.instanceId)
      (expectedVersionValue request.expectedVersion) ::
    missingPrecondition idempotencyCf (resultKey request) ::
    missingPrecondition authorizationAuditCf encrypted.audit.1 ::
    currentDbPrecondition format db outboxMetaCf outboxTailKey ::
    (snapshotConditions format db encrypted.snapshot ++ appendedConditions request outboxTail encrypted.events)

def workflowBatch (db : Db C M) (encrypted : Encrypted C) (outboxTail : Nat) :
    PreparedAtomicBatch StoreKey (StoreValue C M) :=
  .new format.toByteFormat request.commandId.value (resultKey request) (commitConditions request format db encrypted outboxTail)
    (commitWrites request encrypted outboxTail) (.commandResult (commandResult request))

theorem buildPreparedWorkflowBatch_eq (db : Db C M) (encrypted : Encrypted C) :
    buildPreparedWorkflowBatch format db request encrypted = (do
      let tail ← readU64Value db outboxMetaCf outboxTailKey
      if distinct [] (numbered tail encrypted.events) then
        if encrypted.events.length ≤ u64Max - tail then
          .ok (workflowBatch request format db encrypted tail)
        else .error (.unavailable "outbox sequence overflow") else .error .duplicateEvent) := by
  unfold buildPreparedWorkflowBatch
  cases readU64Value db outboxMetaCf outboxTailKey with
  | error => rfl
  | ok =>
    simp only [ok_bind, prepareEvents_eq]
    split
    · split
      · cases hsn : encrypted.snapshot <;>
          simp [workflowBatch, commitConditions, commitWrites, hsn, snapshotWrites, snapshotConditions, resultKey]
      · rfl
    · rfl

end Writes

section Paths
variable {nonces : Nonces} {db db' : Db C M}

structure Committed (crypto : PayloadCrypto (Plaintext events snapshots) C) (request : CommitRequest) (db : Db C M)
    (encrypted : Encrypted C) (outboxTail : Nat) : Prop where
  valid : validateRequest request = .ok ()
  encrypts : encrypted.Of crypto request
  unstored : loadResult db request.tenantId request.actorId request.idempotencyKey request.commandId = .ok none
  version : readVersion db request.tenantId request.instanceId = .ok request.expectedVersion
  tail : readU64Value db outboxMetaCf outboxTailKey = .ok outboxTail

/-- A commit that succeeds answers with the stored result and changes nothing, or writes its records. -/
theorem commit_cases {outcome : CommitOutcome} (h : commit db request crypto nonces = .ok (outcome, db')) :
    (∃ result, loadResult db request.tenantId request.actorId request.idempotencyKey request.commandId =
      .ok (some result) ∧ outcome = .duplicate result ∧ db' = db) ∨
    ∃ encrypted tail, encryptRequest crypto nonces request = .ok encrypted ∧
      Committed crypto request db encrypted tail ∧ outcome = .committed request.result ∧
      db' = applyWrites db (commitWrites request encrypted tail) := by
  simp only [commit, bind_eq_ok] at h
  obtain ⟨_,hva,encrypted,hen,stored,hst,h⟩ := h
  cases stored with
  | some result =>
    simp only [bind_eq_ok, pure_eq_ok] at h
    obtain ⟨_,_,h⟩ := h
    cases h
    exact .inl ⟨result,hst,rfl,rfl⟩
  | none =>
    simp only [bind_eq_ok, pure_eq_ok, ensure_eq_ok, beq_iff_eq] at h
    obtain ⟨actual,hv,_,rfl,tail,ht,batch,hb,h⟩ := h
    cases h
    rw [buildCommitBatch_eq] at hb
    split at hb
    · split at hb
      · cases hb
      · split at hb
        · cases hb
          exact .inr ⟨encrypted,tail,hen,⟨hva,encryptRequest_spec hen,hst,hv,ht⟩,rfl,rfl⟩
        · cases hb
    · cases hb

variable {format : RocksFormat StoreKey (StoreValue C M) M}

structure Prepared (crypto : PayloadCrypto (Plaintext events snapshots) C) (nonces : Nonces) (request : CommitRequest)
    (db : Db C M) (encrypted : Encrypted C) (outboxTail : Nat) : Prop where
  valid : validateRequest request = .ok ()
  unstored : loadResult db request.tenantId request.actorId request.idempotencyKey request.commandId = .ok none
  encrypts : encryptRequest crypto nonces request = .ok encrypted
  tail : readU64Value db outboxMetaCf outboxTailKey = .ok outboxTail
  distinct : distinct [] (numbered outboxTail encrypted.events) = true
  fits : encrypted.events.length ≤ u64Max - outboxTail

/-- A preparation that succeeds finds the stored result, or has a batch. -/
theorem prepareWorkflowBatch_cases {preparation : WorkflowCommitPreparation C M}
    (h : prepareWorkflowBatch format db request crypto nonces = .ok preparation) :
    (∃ result, loadResult db request.tenantId request.actorId request.idempotencyKey request.commandId =
      .ok (some result) ∧ preparation = .alreadyCommitted result) ∨
    ∃ encrypted tail, Prepared crypto nonces request db encrypted tail ∧
      preparation = .proposal (workflowBatch request format db encrypted tail) := by
  simp only [prepareWorkflowBatch, bind_eq_ok] at h
  obtain ⟨_,hva,stored,hst,h⟩ := h
  cases stored with
  | some result => exact .inl ⟨result,hst,(pure_eq_ok.mp h).symm⟩
  | none =>
    simp only [bind_eq_ok] at h
    obtain ⟨encrypted,hen,batch,hb,⟨⟩⟩ := h
    rw [buildPreparedWorkflowBatch_eq, bind_eq_ok] at hb
    obtain ⟨tail,ht,hb⟩ := hb
    split at hb
    · rename_i hd
      split at hb
      · rename_i hf
        cases hb
        exact .inr ⟨encrypted,tail,⟨hva,hst,hen,ht,hd,hf⟩,rfl⟩
      · cases hb
    · cases hb

end Paths

section Families
variable {db : Db C M} {encrypted : Encrypted C} {tail : Nat}

theorem getElem?_family {writes : List (DbWrite C M)} (family : String) (key : StoreKey) :
    (applyWrites db writes)[StorageKey.mk family key]? =
      (applyWrites db (writes.filter fun write => write.address.columnFamily == family))[
        StorageKey.mk family key]? :=
  (getElem?_applyWrites_filter (p := fun address : StorageKey StoreKey => address.columnFamily == family)
    (beq_self_eq_true family)).symm

theorem appendedWrites_events (prepared : List (PreparedEvent C)) :
    (appendedWrites (M := M) request tail prepared).filter (fun write => write.address.columnFamily == eventsCf) =
      prepared.map fun event => .put ⟨eventsCf, event.key⟩ (.event event.record) := by
  induction prepared generalizing tail with
  | nil => rfl
  | cons event prepared ih =>
    rw [appendedWrites, filter_append, ih]
    rfl

/-- In the families that only the end of a commit writes. -/
theorem commitWrites_other {family : String} (h : family ∉ [eventsCf, dedupCf, outboxCf]) :
    (commitWrites (M := M) request encrypted tail).filter (fun write => write.address.columnFamily == family) =
      ((commitWrites (M := M) request { encrypted with events := [] } (tail + encrypted.events.length)).filter
        fun write => write.address.columnFamily == family) := by
  simp only [mem_cons, not_mem_nil, or_false, not_or] at h
  have hap : (appendedWrites (M := M) request tail encrypted.events).filter
      (fun write => write.address.columnFamily == family) = [] := by
    generalize encrypted.events = prepared
    induction prepared generalizing tail with
    | nil => rfl
    | cons event prepared ih =>
      rw [appendedWrites, filter_append, ih]
      simp [eventWrites, Write.address, Ne.symm h.1, Ne.symm h.2.1, Ne.symm h.2.2]
  rw [commitWrites, filter_append, hap]
  rfl

theorem mem_commitWrites_events {write : DbWrite C M} :
    write ∈ commitWrites request encrypted tail ∧ write.address.columnFamily = eventsCf ↔
      ∃ event ∈ encrypted.events, write = .put ⟨eventsCf, event.key⟩ (.event event.record) := by
  rw [← beq_iff_eq]
  refine (mem_filter (p := fun write : DbWrite C M => write.address.columnFamily == eventsCf)).symm.trans ?_
  rw [commitWrites, filter_append, appendedWrites_events]
  cases encrypted.snapshot <;>
    exact (mem_append.trans (or_iff_left not_mem_nil)).trans (mem_map.trans (by simp only [eq_comm]))

theorem commitWrites_puts : ∀ write ∈ commitWrites (M := M) request encrypted tail, write.result.isSome = true := by
  have hap : ∀ write ∈ appendedWrites (M := M) request tail encrypted.events, write.result.isSome = true := by
    generalize encrypted.events = prepared
    induction prepared generalizing tail with
    | nil => exact nofun
    | cons event prepared ih =>
      refine forall_mem_append.mpr ⟨?_,ih⟩
      simp [eventWrites, Write.result]
  refine forall_mem_append.mpr ⟨hap,?_⟩
  cases encrypted.snapshot <;> simp [snapshotWrites, Write.result]

theorem getElem?_put (family : String) (key key' : StoreKey) (value : StoreValue C M) :
    (applyWrites db [.put ⟨family, key⟩ value])[StorageKey.mk family key']? =
      if key = key' then some value else db[StorageKey.mk family key']? := by
  have hput : (applyWrite db (.put ⟨family, key⟩ value))[StorageKey.mk family key']? =
      if StorageKey.mk family key = ⟨family, key'⟩ then some value
      else db[StorageKey.mk family key']? := getElem?_applyWrite _
  simpa [applyWrites] using hput

theorem getElem?_commit_streamMeta (key : StoreKey) :
    (applyWrites db (commitWrites request encrypted tail))[StorageKey.mk streamMetaCf key]? =
      if streamMetaKey request.tenantId request.instanceId = key then some (.number request.result.version)
      else db[StorageKey.mk streamMetaCf key]? := by
  rw [getElem?_family, commitWrites_other (by decide)]
  cases encrypted.snapshot <;> exact getElem?_put ..

theorem getElem?_commit_snapshots (key : StoreKey) :
    (applyWrites db (commitWrites request encrypted tail))[StorageKey.mk snapshotsCf key]? =
      (applyWrites db (snapshotWrites encrypted.snapshot))[StorageKey.mk snapshotsCf key]? := by
  rw [getElem?_family, commitWrites_other (by decide)]
  cases encrypted.snapshot <;> rfl

end Families

end BpmpPlatform.Store
