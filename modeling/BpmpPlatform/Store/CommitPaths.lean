import BpmpPlatform.Store.Apply
import BpmpPlatform.Library.Related

/-! # The direct and the replicated path

A request is committed directly, or its batch is prepared, applied and resolved at once. Two runs of the encryption
differ in their nonces only.
-/
namespace BpmpPlatform.Store
open Std Outcome Replication

variable {events : MessageFormat Wire.EventEnvelope} {snapshots : MessageFormat Wire.WorkflowSnapshot} {C M : Type}

section Views
variable {Plain C M : Type} (crypto : PayloadCrypto Plain C) (key : StoreKey)

def EncryptedPayload.opened (payload : EncryptedPayload C) : EncryptedPayload (Except CryptoError Plain) :=
  ⟨payload.keyScope, payload.keyVersion, payload.keyEpoch, payload.algorithm, [], crypto.decrypt key payload⟩

def StoreValue.opened : StoreValue C M → StoreValue (Except CryptoError Plain) M
  | .number value => .number value
  | .empty => .empty
  | .event record => .event (record.opened crypto key)
  | .snapshot sequence record => .snapshot sequence (record.opened crypto key)
  | .authorizationAudit record => .authorizationAudit (record.opened crypto key)
  | .governance record => .governance (record.opened crypto key)
  | .outboxEntry entry => .outboxEntry entry
  | .commandResult stored => .commandResult stored
  | .text value => .text value
  | .response commandId batchDigest outcome payload => .response commandId batchDigest outcome payload.opened
  | .position metadata => .position metadata

end Views

section Encryption
variable (crypto : PayloadCrypto (Plaintext events snapshots) C) (nonces nonces' : Nonces) (request : CommitRequest)

def RecordsAlike (key : StoreKey) (record record' : EncryptedPayload C) : Prop :=
  record.opened crypto key = record'.opened crypto key

theorem encryptRecord_alike (scope : KeyScope) (key : StoreKey) (plain : Plaintext events snapshots) :
    Related (RecordsAlike crypto key) (encryptRecord crypto nonces scope key plain)
      (encryptRecord crypto nonces' scope key plain) := by
  have hhe := crypto.encrypt_header (nonces key) (nonces' key) scope key plain
  unfold encryptRecord
  cases hr : crypto.encrypt (nonces key) scope key plain with
  | error error =>
    cases hr' : crypto.encrypt (nonces' key) scope key plain with
    | error => exact .error _
    | ok =>
      rw [hr, hr'] at hhe
      cases hhe
  | ok =>
    cases hr' : crypto.encrypt (nonces' key) scope key plain with
    | error =>
      rw [hr, hr'] at hhe
      cases hhe
    | ok =>
      rw [hr, hr'] at hhe
      simp only [Except.map, EncryptedPayload.header, Except.ok.injEq, Prod.mk.injEq] at hhe
      obtain ⟨hs,hv,hep,hal⟩ := hhe
      refine .ok ?_
      simp [RecordsAlike, EncryptedPayload.opened, hs, hv, hep, hal, crypto.decrypt_encrypt hr,
        crypto.decrypt_encrypt hr']

structure PreparedEvent.Alike (event event' : PreparedEvent C) : Prop where
  envelope : event.envelope = event'.envelope
  key : event.key = event'.key
  record : RecordsAlike crypto event.key event.record event'.record

def SnapshotsAlike (snapshot snapshot' : Option (StoreKey × Nat × EncryptedPayload C)) : Prop :=
  Option.Rel (fun s s' => s.1 = s'.1 ∧ s.2.1 = s'.2.1 ∧ RecordsAlike crypto s.1 s.2.2 s'.2.2) snapshot snapshot'

structure Encrypted.Alike (encrypted encrypted' : Encrypted C) : Prop where
  events : List.Forall₂ (PreparedEvent.Alike crypto) encrypted.events encrypted'.events
  snapshot : SnapshotsAlike crypto encrypted.snapshot encrypted'.snapshot
  auditKey : encrypted.audit.1 = encrypted'.audit.1
  audit : RecordsAlike crypto encrypted.audit.1 encrypted.audit.2 encrypted'.audit.2

theorem encryptRequest_alike : Related (Encrypted.Alike crypto) (encryptRequest crypto nonces request)
    (encryptRequest crypto nonces' request) := by
  have hes : Related (List.Forall₂ (PreparedEvent.Alike crypto)) (prepareEncryptedEvents crypto nonces request)
      (prepareEncryptedEvents crypto nonces' request) :=
    Related.collectAll fun event _ => (encryptRecord_alike crypto nonces nonces' _ _ _).bind fun _ _ hr =>
      .ok ⟨rfl,rfl,hr⟩
  have hsn : Related (SnapshotsAlike crypto) (prepareEncryptedSnapshot crypto nonces request)
      (prepareEncryptedSnapshot crypto nonces' request) := by
    unfold prepareEncryptedSnapshot
    cases request.snapshot with
    | none => exact .ok .none
    | some =>
      exact (encryptRecord_alike crypto nonces nonces' _ _ _).bind fun _ _ hr => .ok (.some ⟨rfl,rfl,hr⟩)
  refine hes.bind fun _ _ hes => hsn.bind fun _ _ hsn => ?_
  have ha : Related (fun audit audit' => audit.1 = audit'.1 ∧ RecordsAlike crypto audit.1 audit.2 audit'.2)
      (prepareEncryptedAuthorizationAudit crypto nonces request)
      (prepareEncryptedAuthorizationAudit crypto nonces' request) :=
    (encryptRecord_alike crypto nonces nonces' _ _ _).bind fun _ _ hr => .ok ⟨rfl,hr⟩
  exact ha.bind fun _ _ ha => .ok ⟨hes,hsn,ha.1,ha.2⟩

variable {crypto request}

def WritesAlike (crypto : PayloadCrypto (Plaintext events snapshots) C) (write write' : DbWrite C M) : Prop :=
  write.address = write'.address ∧ write.result.map (StoreValue.opened crypto write.address.key) =
    write'.result.map (StoreValue.opened crypto write.address.key)

theorem WritesAlike.refl (write : DbWrite C M) : WritesAlike crypto write write := ⟨rfl,rfl⟩

theorem appendedWrites_alike {tail : Nat} {prepared prepared' : List (PreparedEvent C)}
    (h : List.Forall₂ (PreparedEvent.Alike crypto) prepared prepared') :
    List.Forall₂ (WritesAlike (M := M) crypto) (appendedWrites request tail prepared)
      (appendedWrites request tail prepared') := by
  induction h generalizing tail with
  | nil => exact .nil
  | @cons event event' prepared prepared' hal _ ih =>
    obtain ⟨hen,hkey,hr⟩ := hal
    rw [appendedWrites, appendedWrites, eventWrites, eventWrites, hen]
    refine .cons ⟨by rw [Write.address, Write.address, hkey],?_⟩ (.cons (.refl _) (.cons (.refl _) ih))
    exact congrArg (fun record => some (StoreValue.event record)) hr

theorem snapshotWrites_alike {snapshot snapshot' : Option (StoreKey × Nat × EncryptedPayload C)}
    (h : SnapshotsAlike crypto snapshot snapshot') :
    List.Forall₂ (WritesAlike (M := M) crypto) (snapshotWrites snapshot) (snapshotWrites snapshot') := by
  cases h with
  | none => exact .nil
  | some hb =>
    obtain ⟨hkey,hsq,hr⟩ := hb
    refine .cons ⟨by rw [Write.address, Write.address, hkey],?_⟩ .nil
    show some (StoreValue.snapshot _ _) = some (StoreValue.snapshot _ _)
    rw [hsq]
    exact congrArg (fun record => some (StoreValue.snapshot _ record)) hr

theorem commitWrites_alike {encrypted encrypted' : Encrypted C} (h : encrypted.Alike crypto encrypted') (tail : Nat) :
    List.Forall₂ (WritesAlike (M := M) crypto) (commitWrites request encrypted tail)
      (commitWrites request encrypted' tail) := by
  rw [commitWrites, commitWrites, h.events.length_eq]
  refine List.rel_append (appendedWrites_alike h.events) (.cons (.refl _) (List.rel_append (snapshotWrites_alike h.snapshot) ?_))
  refine .cons (.refl _) (.cons (.refl _) (.cons ⟨by rw [Write.address, Write.address, h.auditKey],?_⟩ .nil))
  exact congrArg (fun record => some (StoreValue.authorizationAudit record)) h.audit

end Encryption

def StoreError.kind : StoreError → StoreError
  | .corruptData _ => .corruptData .undecodable
  | .unavailable _ => .unavailable ""
  | error => error

section Paths
variable (crypto : PayloadCrypto (Plaintext events snapshots) C) (format : RocksFormat StoreKey (StoreValue C M) M)
  (limits : StateMachineLimits) (metadata : StateMachineMetadata M) (request : CommitRequest)
  (state : RocksState StoreKey (StoreValue C M))

def directAnswer : Except StoreError (CommitOutcome × Db C M) →
    Except StoreError CommitOutcome × RocksState StoreKey (StoreValue C M)
  | .error error => (.error error, state)
  | .ok (outcome, db) => (.ok outcome, { state with db := db })

def commitDirectly (nonces : Nonces) : Except StoreError CommitOutcome × RocksState StoreKey (StoreValue C M) :=
  directAnswer state (commit state.db request crypto nonces)

def appliedAnswer : Except AtomicStorageError (ApplyResponse (StoreValue C M) × RocksState StoreKey (StoreValue C M)) →
    Except StoreError CommitOutcome × RocksState StoreKey (StoreValue C M)
  | .error error => (.error (.unavailable ("Raft client write failed: " ++ error.reason)), state)
  | .ok (response, reached) => (resolveWorkflowApply reached.db request response, reached)

def preparedAnswer : Except StoreError (WorkflowCommitPreparation C M) →
    Except StoreError CommitOutcome × RocksState StoreKey (StoreValue C M)
  | .error error => (.error error, state)
  | .ok (.alreadyCommitted result) => (.ok (.duplicate result), state)
  | .ok (.proposal batch) => appliedAnswer request state (state.apply format batch limits metadata)

/-- The batch of the request is prepared, applied and resolved with nothing in between. -/
def commitReplicated (nonces : Nonces) : Except StoreError CommitOutcome × RocksState StoreKey (StoreValue C M) :=
  preparedAnswer format limits metadata request state (prepareWorkflowBatch format state.db request crypto nonces)

/-- Two paths that answer with outcomes of one kind and leave the same contents, up to nonces and bookkeeping. -/
structure SamePaths (direct replicated : Except StoreError CommitOutcome × RocksState StoreKey (StoreValue C M)) : Prop where
  outcome : direct.1.mapError StoreError.kind = replicated.1.mapError StoreError.kind
  contents : ∀ address : StorageKey StoreKey, address.columnFamily ∉ bookkeepingFamilies →
    direct.2.db[address]?.map (StoreValue.opened crypto address.key) =
      replicated.2.db[address]?.map (StoreValue.opened crypto address.key)

end Paths

section Conditions
variable (crypto : PayloadCrypto (Plaintext events snapshots) C) (format : RocksFormat StoreKey (StoreValue C M) M)
  (limits : StateMachineLimits) (request : CommitRequest) (db : Db C M)

def audited : Bool :=
  db[(⟨authorizationAuditCf, authorizationAuditStorageKey request.tenantId request.commandId⟩ :
    StorageKey StoreKey)]?.isSome

def Outdated (batch : PreparedAtomicBatch StoreKey (StoreValue C M)) : Prop :=
  batch.validate format.toByteFormat limits = .ok () → ∀ recorded, Replication.Recorded format db batch.idempotencyScope recorded →
    ∃ previous, recorded = .ok previous ∧ (previous.Answers batch →
      (∃ error, readVersion db request.tenantId request.instanceId = .error error) ∧
      ∃ error, appliedResult request previous = .error error)

/-- The batch after the tail of the outbox fails no more often than the checks of the direct path. -/
def AlignedAt (encrypted : Encrypted C) (outboxTail : Nat) : Prop :=
  let ids := numbered outboxTail encrypted.events
  let current := readVersion db request.tenantId request.instanceId = .ok request.expectedVersion
  let batch := workflowBatch request format db encrypted outboxTail
  (distinct [] ids = true ∧ encrypted.events.length ≤ u64Max - outboxTail →
    (current → Applies format limits db batch) ∧ (¬current → Outdated format limits request db batch)) ∧
  (¬(distinct [] ids = true ∧ encrypted.events.length ≤ u64Max - outboxTail) →
    current ∧ audited request db = false ∧ distinct [] ids = !ids.any (recorded request db))

def Aligned (nonces : Nonces) : Prop :=
  validateRequest request = .ok () →
  match loadResult db request.tenantId request.actorId request.idempotencyKey request.commandId with
  | .error _ => ∃ encrypted, encryptRequest crypto nonces request = .ok encrypted
  | .ok (some _) => (∃ encrypted, encryptRequest crypto nonces request = .ok encrypted) ∧ audited request db = true
  | .ok none => ∀ encrypted, encryptRequest crypto nonces request = .ok encrypted →
    match readU64Value db outboxMetaCf outboxTailKey with
    | .error _ => ∀ version, readVersion db request.tenantId request.instanceId = .ok version →
        version = request.expectedVersion
    | .ok outboxTail => AlignedAt format limits request db encrypted outboxTail

end Conditions

section Errors
variable {C M : Type} (db : Db C M) (request : CommitRequest)

def StoreError.IsCorrupt (error : StoreError) : Prop := error.kind = .corruptData .undecodable

theorem readVersion_corrupt (tenant : TenantId) (inst : InstanceId) :
    FailsWith StoreError.IsCorrupt (readVersion db tenant inst) := by
  unfold readVersion
  split
  · exact .ok _
  · exact .ok _
  · exact .error rfl

theorem readU64Value_corrupt (family : String) (key : StoreKey) :
    FailsWith StoreError.IsCorrupt (readU64Value db family key) := by
  unfold readU64Value
  cases db[StorageKey.mk family key]? with
  | none => exact .ok _
  | some value =>
    cases value with
    | number => exact .ok _
    | _ => exact .error rfl

theorem identifier_corrupt (kind : IdentifierKind) (value : String) : FailsWith StoreError.IsCorrupt
    ((Identifier.new kind value).mapError fun error => StoreError.corruptData (.identifier error)) := by
  cases Identifier.new kind value with
  | ok => exact .ok _
  | error => exact .error rfl

theorem StoredCommandResult.result_corrupt (stored : StoredCommandResult) :
    FailsWith StoreError.IsCorrupt stored.result :=
  .bind (identifier_corrupt _ _) fun _ _ => .bind (identifier_corrupt _ _) fun _ _ => .pure _

theorem StoreValue.toCommandResult_corrupt (value : StoreValue C M) :
    FailsWith StoreError.IsCorrupt value.toCommandResult := by
  cases value with
  | commandResult => exact .ok _
  | _ => exact .error rfl

theorem appliedResult_corrupt (response : ApplyResponse (StoreValue C M)) :
    FailsWith StoreError.IsCorrupt (appliedResult request response) :=
  .bind (StoreValue.toCommandResult_corrupt _) fun stored _ =>
    .check rfl fun _ => stored.result_corrupt

theorem loadResult_failsWith (tenant : TenantId) (actor : ActorId) (key : IdempotencyKey) (command : CommandId) :
    FailsWith (fun error => error.IsCorrupt ∨ error = .idempotencyConflict) (loadResult db tenant actor key command) := by
  unfold loadResult
  split
  · exact .ok _
  · refine .bind ((StoreValue.toCommandResult_corrupt _).mono fun _ => .inl) fun stored _ => ?_
    exact .bind (.ensure fun _ => .inr rfl) fun _ _ => .bind (stored.result_corrupt.mono fun _ => .inl) fun _ _ => .pure _

theorem commandResult_result : (commandResult request).result = .ok request.result := by
  simp only [StoredCommandResult.result, commandResult, Identifier.new_value, Except.mapError, ok_bind]
  rfl

theorem encryptRequest_failsWith {events : MessageFormat Wire.EventEnvelope}
    {snapshots : MessageFormat Wire.WorkflowSnapshot} (crypto : PayloadCrypto (Plaintext events snapshots) C)
    (nonces : Nonces) : FailsWith (fun error => error = .cryptoUnavailable) (encryptRequest crypto nonces request) := by
  have hr : ∀ scope key plain, FailsWith (fun error => error = .cryptoUnavailable)
      (encryptRecord crypto nonces scope key plain) := fun scope key plain error => encryptRecord_error
  have hes : ∀ envelopes, FailsWith (fun error => error = .cryptoUnavailable)
      (collectAll (prepareEncryptedEvent crypto nonces request) envelopes) := by
    intro envelopes
    induction envelopes with
    | nil => exact .ok _
    | cons event envelopes ih =>
      exact .bind (.bind (hr _ _ _) fun _ _ => .pure _) fun _ _ => .bind ih fun _ _ => .pure _
  refine .bind (hes _) fun _ _ => .bind ?_ fun _ _ => .bind (.bind (hr _ _ _) fun _ _ => .pure _) fun _ _ => .pure _
  unfold prepareEncryptedSnapshot
  split
  · exact .ok _
  · exact .bind (hr _ _ _) fun _ _ => .pure _

theorem audit_of_valid (h : validateRequest request = .ok ()) :
    request.authorizationAudit.tenantId = request.tenantId ∧ request.authorizationAudit.commandId = request.commandId := by
  simp only [validateRequest, CommitRequest.validateAuthorizationAudit, bind_eq_ok, mapError_eq_ok,
    ensure_eq_ok, Bool.and_eq_true, beq_iff_eq] at h
  obtain ⟨_,ha,_⟩ := h
  exact ⟨ha.1.1.1.1.1.1.1.1.1,ha.1.1.1.1.1.1.1.2⟩

end Errors

section Submitted
variable {C M : Type} (format : RocksFormat StoreKey (StoreValue C M) M) (limits : StateMachineLimits)
  (metadata : StateMachineMetadata M) {request : CommitRequest} (state : RocksState StoreKey (StoreValue C M))
  {db : Db C M}

theorem reconcileApply_position :
    reconcileApply (state.write [putRaftStateMetadata format metadata]).db request = reconcileApply state.db request := by
  have hre : ∀ (family : String) (key : StoreKey), family ≠ raftStateMetaCf →
      (state.write [putRaftStateMetadata format metadata]).db[StorageKey.mk family key]? =
        state.db[StorageKey.mk family key]? := fun family key h => write_position h
  have hr := hre idempotencyCf (idempotencyStorageKey request.tenantId request.actorId request.idempotencyKey)
    (by decide)
  have hv := hre streamMetaCf (streamMetaKey request.tenantId request.instanceId) (by decide)
  simp only [reconcileApply, loadResult, readVersion, hr, hv]

theorem submitted_total (db : Db C M) (encrypted : Encrypted C) (tail : Nat) :
    let batch := workflowBatch request format db encrypted tail
    let answer := appliedAnswer request state (state.apply format batch limits metadata)
    (batch.validate format.toByteFormat limits = .ok () ∧
      ∃ error, Replication.Recorded format state.db (resultKey request) (.error error) ∧
        answer = (.error (.unavailable ("Raft client write failed: " ++ error)), state)) ∨
    (batch.validate format.toByteFormat limits = .ok () ∧
      ∃ previous, Replication.Recorded format state.db (resultKey request) (.ok previous) ∧ previous.Answers batch ∧
        answer = (.duplicate <$> appliedResult request previous, state.write [putRaftStateMetadata format metadata])) ∨
    (Refused format limits state.db batch ∧
      answer = (reconcileApply state.db request, state.write [putRaftStateMetadata format metadata])) ∨
    Applies format limits state.db batch ∧
      answer = (.ok (.committed request.result), state.applied format batch metadata) := by
  intro batch answer
  have hc : ∀ condition ∈ batch.preconditions, condition.storageKey.columnFamily ∈ columnFamilies :=
    fun condition hin => workflowFamilies_opened _ (commitConditions_family hin)
  have hm : ∀ mutation ∈ batch.mutations, mutation.address.columnFamily ∈ columnFamilies :=
    fun mutation hin => workflowFamilies_opened _ (commitWrites_family hin)
  rcases rocks_apply_total limits metadata state hc hm with
    ⟨hva,error,hrd,hap⟩ | ⟨hva,previous,hrd,han,hap⟩ |
    ⟨hre,response,hcm,ho,hap⟩ | ⟨happ,hap⟩
  · refine .inl ⟨hva,error,hrd,?_⟩
    simp only [answer, hap, appliedAnswer]
  · refine .inr (.inl ⟨hva,previous,hrd,han,?_⟩)
    have hcm : (previous.commandId == request.commandId.value) = true := beq_iff_eq.mpr han.1
    simp only [answer, hap, appliedAnswer, resolveWorkflowApply, hcm, ensure, if_true, ok_bind]
    rfl
  · refine .inr (.inr (.inl ⟨hre,?_⟩))
    have hcm : (response.commandId == request.commandId.value) = true := beq_iff_eq.mpr hcm
    rw [← reconcileApply_position format metadata state]
    rcases ho with ⟨index,ho⟩ | ⟨reason,ho⟩
    · simp only [answer, hap, appliedAnswer, resolveWorkflowApply, hcm, ho, ensure, if_true, ok_bind]
    · simp only [answer, hap, appliedAnswer, resolveWorkflowApply, hcm, ho, ensure, if_true, ok_bind]
  · refine .inr (.inr (.inr ⟨happ,?_⟩))
    have hr : appliedResult request (appliedResponse batch) = .ok request.result := by
      show (do ensure ((commandResult request).commandId == request.commandId.value) _; (commandResult request).result) = _
      rw [commandResult_result]
      simp [ensure, commandResult, ok_bind]
    have hcm : ((appliedResponse batch).commandId == request.commandId.value) = true := beq_iff_eq.mpr rfl
    simp only [answer, hap, appliedAnswer, resolveWorkflowApply, hcm, ensure, if_true, ok_bind]
    rw [show (appliedResponse batch).outcome = .applied from rfl]
    simp only [hr, ok_bind]
    rfl

theorem reconcileApply_ne_committed (result : CommittedResult) :
    reconcileApply db request ≠ .ok (.committed result) := by
  intro h
  simp only [reconcileApply, bind_eq_ok] at h
  obtain ⟨stored,_,h⟩ := h
  cases stored with
  | some => cases h
  | none =>
    simp only [bind_eq_ok] at h
    obtain ⟨_,_,_,_,h⟩ := h
    cases h

def checkVersion (request : CommitRequest) (db : Db C M) : Except StoreError Unit := do
  let actual ← readVersion db request.tenantId request.instanceId
  ensure (actual == request.expectedVersion) (.versionConflict request.expectedVersion actual)

theorem checkVersion_eq_ok : checkVersion request db = .ok () ↔
    readVersion db request.tenantId request.instanceId = .ok request.expectedVersion := by
  simp only [checkVersion, bind_eq_ok, ensure_eq_ok, beq_iff_eq]
  constructor
  · rintro ⟨actual,hv,rfl⟩
    exact hv
  · exact fun hv => ⟨_,hv,rfl⟩

theorem checkVersion_error {error : StoreError} (h : checkVersion request db = .error error) :
    (error.IsCorrupt ∧ ∃ cause, readVersion db request.tenantId request.instanceId = .error cause) ∨
    ∃ actual, error = .versionConflict request.expectedVersion actual ∧ actual ≠ request.expectedVersion ∧
      readVersion db request.tenantId request.instanceId = .ok actual := by
  unfold checkVersion at h
  cases hv : readVersion db request.tenantId request.instanceId with
  | error =>
    rw [hv] at h
    cases h
    exact .inl ⟨readVersion_corrupt db _ _ _ hv,_,rfl⟩
  | ok actual =>
    rw [hv, ok_bind] at h
    by_cases hc : actual = request.expectedVersion
    · simp [hc, ensure] at h
    · simp only [ensure, beq_iff_eq, hc, if_false, Except.error.injEq] at h
      exact .inr ⟨actual,h.symm,hc,rfl⟩

/-- A request without a stored result fails with what is wrong about its version, if anything is. -/
theorem reconcileApply_unstored
    (h : loadResult db request.tenantId request.actorId request.idempotencyKey request.commandId = .ok none) :
    reconcileApply db request = (do
      checkVersion request db
      throw (.unavailable "authoritative workflow precondition failed")) := by
  rw [reconcileApply, h, ok_bind, checkVersion]
  cases readVersion db request.tenantId request.instanceId with
  | error | ok => rfl

end Submitted

section Contents
variable (crypto : PayloadCrypto (Plaintext events snapshots) C) (format : RocksFormat StoreKey (StoreValue C M) M)
  (limits : StateMachineLimits) (metadata : StateMachineMetadata M) (request : CommitRequest)
  (state : RocksState StoreKey (StoreValue C M)) (nonces : Nonces) {nonces' : Nonces}

theorem commitDirectly_cases : (∃ outcome, commitDirectly crypto request state nonces = (outcome, state) ∧
      ∀ result, outcome ≠ .ok (.committed result)) ∨
    ∃ encrypted tail, encryptRequest crypto nonces request = .ok encrypted ∧
      readU64Value state.db outboxMetaCf outboxTailKey = .ok tail ∧
      commitDirectly crypto request state nonces = (.ok (.committed request.result),
        { state with db := applyWrites state.db (commitWrites request encrypted tail) }) := by
  unfold commitDirectly
  cases hcom : commit state.db request crypto nonces with
  | error => exact .inl ⟨_,rfl,fun _ h => nomatch h⟩
  | ok answer =>
    obtain ⟨outcome,db⟩ := answer
    rcases commit_cases hcom with ⟨result,_,rfl,rfl⟩ | ⟨encrypted,tail,hen,hco,rfl,rfl⟩
    · exact .inl ⟨_,rfl,fun _ h => nomatch h⟩
    · exact .inr ⟨encrypted,tail,hen,hco.tail,rfl⟩

theorem commitReplicated_cases :
    (∃ outcome reached, commitReplicated crypto format limits metadata request state nonces = (outcome, reached) ∧
      (∀ result, outcome ≠ .ok (.committed result)) ∧
      ∀ address : StorageKey StoreKey, address.columnFamily ∉ bookkeepingFamilies →
        reached.db[address]? = state.db[address]?) ∨
    ∃ encrypted tail, encryptRequest crypto nonces request = .ok encrypted ∧
      readU64Value state.db outboxMetaCf outboxTailKey = .ok tail ∧
      commitReplicated crypto format limits metadata request state nonces = (.ok (.committed request.result),
        state.applied format (workflowBatch request format state.db encrypted tail) metadata) := by
  have hpo : ∀ address : StorageKey StoreKey, address.columnFamily ∉ bookkeepingFamilies →
      (state.write [putRaftStateMetadata format metadata]).db[address]? = state.db[address]? :=
    fun address h => write_position fun heq => h (heq ▸ List.mem_of_elem_eq_true rfl)
  unfold commitReplicated
  cases hp : prepareWorkflowBatch format state.db request crypto nonces with
  | error => exact .inl ⟨_,_,rfl,fun _ h => (nomatch h),fun _ _ => rfl⟩
  | ok =>
    rcases prepareWorkflowBatch_cases hp with ⟨result,_,rfl⟩ | ⟨encrypted,tail,hf,rfl⟩
    · exact .inl ⟨_,_,rfl,fun _ h => (nomatch h),fun _ _ => rfl⟩
    · rw [preparedAnswer]
      rcases submitted_total format limits metadata state state.db encrypted tail with
        ⟨_,error,_,ha⟩ | ⟨_,previous,_,_,ha⟩ | ⟨_,ha⟩ | ⟨_,ha⟩
      · exact .inl ⟨_,_,ha,fun _ h => (nomatch h),fun _ _ => rfl⟩
      · refine .inl ⟨_,_,ha,fun _ h => ?_,hpo⟩
        obtain ⟨_,_,h⟩ := map_eq_ok.mp h
        cases h
      · exact .inl ⟨_,_,ha,reconcileApply_ne_committed,hpo⟩
      · exact .inr ⟨encrypted,tail,hf.encrypts,hf.tail,ha⟩

variable {crypto format limits metadata request state nonces}

/-- Paths that answer alike have both written the records of the request, or neither has. -/
theorem contents_of_outcome (h : (commitDirectly crypto request state nonces).1.mapError StoreError.kind =
      (commitReplicated crypto format limits metadata request state nonces').1.mapError StoreError.kind)
    (address : StorageKey StoreKey) (had : address.columnFamily ∉ bookkeepingFamilies) :
    (commitDirectly crypto request state nonces).2.db[address]?.map (StoreValue.opened crypto address.key) =
      (commitReplicated crypto format limits metadata request state nonces').2.db[address]?.map
        (StoreValue.opened crypto address.key) := by
  rcases commitDirectly_cases crypto request state nonces with
    ⟨outcome,hd,ho⟩ | ⟨encrypted,tail,hen,ht,hd⟩ <;>
  rcases commitReplicated_cases crypto format limits metadata request state nonces' with
    ⟨outcome',reached,hr,ho',hk⟩ | ⟨encrypted',outboxTail',hen',ht',hr⟩
  · rw [hd, hr, hk address had]
  · rw [hd, hr] at h
    exact absurd (mapError_eq_ok.mp h) (ho _)
  · rw [hd, hr] at h
    exact absurd (mapError_eq_ok.mp h.symm) (ho' _)
  · obtain rfl : tail = outboxTail' := Except.ok.inj (ht.symm.trans ht')
    obtain ⟨other,hs,hal⟩ := (encryptRequest_alike crypto nonces nonces' request).exists_of_ok hen
    obtain rfl : other = encrypted' := Except.ok.inj (hs.symm.trans hen')
    rw [hd, hr, getElem?_applied had]
    exact applyWrites_alike (fun address : StorageKey StoreKey => StoreValue.opened crypto address.key) rfl
      (commitWrites_alike hal tail)

end Contents

end BpmpPlatform.Store
