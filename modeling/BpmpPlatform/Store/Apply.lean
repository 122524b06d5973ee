import BpmpPlatform.Store.Written
import BpmpPlatform.Replication.History

/-! # Applying the batch of a request

What a node can answer to a batch, and what the conditions of the batch of a request say about the state it is applied
to.
-/
namespace BpmpPlatform.Replication
open Std Outcome List

section Answers
variable {K V M : Type} [Ord K] [TransOrd K]

variable {format : RocksFormat K V M} {state : RocksState K V} {batch : PreparedAtomicBatch K V}

theorem rocks_firstUnsatisfied_eq {index : Nat} {conditions : List (Precondition K)}
    (h : ∀ condition ∈ conditions, condition.storageKey.columnFamily ∈ columnFamilies) :
    state.firstUnsatisfied format index conditions =
      .ok (firstUnsatisfied format.toByteFormat state.db index conditions) := by
  induction conditions generalizing index with
  | nil => rfl
  | cons condition conditions ih =>
    rw [forall_mem_cons] at h
    have hf : raftCf condition.storageKey.columnFamily = .ok () := by
      rw [raftCf, ensure_eq_ok]
      simpa using h.1
    rw [RocksState.firstUnsatisfied, hf, ok_bind, firstUnsatisfied]
    split
    · exact ih h.2
    · rfl

variable [DecidableEq K]

structure Applies (format : RocksFormat K V M) (limits : StateMachineLimits) (db : ExtTreeMap (StorageKey K) V)
    (batch : PreparedAtomicBatch K V) : Prop where
  valid : batch.validate format.toByteFormat limits = .ok ()
  fresh : db[(⟨raftAppliedCommandsCf, batch.idempotencyScope⟩ : StorageKey K)]? = none
  satisfied : ∀ condition ∈ batch.preconditions, satisfied format.toByteFormat db condition = true

def RocksState.applied (format : RocksFormat K V M) (state : RocksState K V) (batch : PreparedAtomicBatch K V)
    (metadata : StateMachineMetadata M) : RocksState K V :=
  state.write (putRaftStateMetadata format metadata :: (batch.mutations ++
    [.put ⟨raftAppliedCommandsCf, batch.idempotencyScope⟩ (format.encodeResponse (appliedResponse batch))]))

/-- Beside the bookkeeping, an applied batch writes its mutations. -/
theorem getElem?_applied [LawfulEqOrd K] {metadata : StateMachineMetadata M} {key : StorageKey K}
    (h : key.columnFamily ∉ bookkeepingFamilies) :
    (state.applied format batch metadata).db[key]? = (applyWrites state.db batch.mutations)[key]? := by
  have hpo : (state.write [putRaftStateMetadata format metadata]).db[key]? = state.db[key]? :=
    write_position fun heq => h (heq ▸ mem_of_elem_eq_true rfl)
  refine (getElem?_applyWrites_concat (putRaftStateMetadata format metadata :: batch.mutations) _).trans ?_
  refine (if_neg ?_).trans (applyWrites_agree hpo)
  rintro rfl
  exact h appliedCommands_mem_bookkeeping

inductive Recorded (format : RocksFormat K V M) (db : ExtTreeMap (StorageKey K) V) (scope : K) :
    Except String (ApplyResponse V) → Prop
  | mk {bytes : V} (h : db[(⟨raftAppliedCommandsCf, scope⟩ : StorageKey K)]? = some bytes) :
      Recorded format db scope (format.decodeResponse bytes)

omit [DecidableEq K] in
theorem Recorded.not_fresh {db : ExtTreeMap (StorageKey K) V} {scope : K}
    {recorded : Except String (ApplyResponse V)} (h : Recorded format db scope recorded) :
    db[StorageKey.mk raftAppliedCommandsCf scope]? ≠ none := by
  obtain ⟨hb⟩ := h
  rw [hb]
  exact Option.some_ne_none _

def ApplyResponse.Answers (previous : ApplyResponse V) (batch : PreparedAtomicBatch K V) : Prop :=
  previous.commandId = batch.commandId ∧ previous.batchDigest = batch.batchDigest

structure Refused (format : RocksFormat K V M) (limits : StateMachineLimits) (db : ExtTreeMap (StorageKey K) V)
    (batch : PreparedAtomicBatch K V) : Prop where
  unanswered : batch.validate format.toByteFormat limits = .ok () → ∀ recorded,
    Recorded format db batch.idempotencyScope recorded → ∃ previous, recorded = .ok previous ∧ ¬previous.Answers batch
  unapplied : ¬Applies format limits db batch

/-- The answer to a batch that only names families of the database. -/
theorem rocks_apply_total (limits : StateMachineLimits) (metadata : StateMachineMetadata M) (state : RocksState K V)
    (hc : ∀ condition ∈ batch.preconditions, condition.storageKey.columnFamily ∈ columnFamilies)
    (hm : ∀ mutation ∈ batch.mutations, mutation.address.columnFamily ∈ columnFamilies) :
    (batch.validate format.toByteFormat limits = .ok () ∧
      ∃ error, Recorded format state.db batch.idempotencyScope (.error error) ∧
        state.apply format batch limits metadata = .error ⟨error⟩) ∨
    (batch.validate format.toByteFormat limits = .ok () ∧
      ∃ previous, Recorded format state.db batch.idempotencyScope (.ok previous) ∧ previous.Answers batch ∧
        state.apply format batch limits metadata =
          .ok ({ previous with outcome := .duplicate }, state.write [putRaftStateMetadata format metadata])) ∨
    (Refused format limits state.db batch ∧ ∃ response, response.commandId = batch.commandId ∧
      ((∃ index, response.outcome = .preconditionFailed index) ∨ ∃ reason, response.outcome = .rejected reason) ∧
      state.apply format batch limits metadata = .ok (response, state.write [putRaftStateMetadata format metadata])) ∨
    Applies format limits state.db batch ∧
      state.apply format batch limits metadata = .ok (appliedResponse batch, state.applied format batch metadata) := by
  unfold RocksState.apply
  cases hva : batch.validate format.toByteFormat limits with
  | error =>
    refine .inr (.inr (.inl ⟨⟨fun h => ?_,fun h => ?_⟩,_,rfl,.inr ⟨_,rfl⟩,rfl⟩))
    · rw [hva] at h
      cases h
    · rw [h.valid] at hva
      cases hva
  | ok =>
    cases hs : state.db[StorageKey.mk raftAppliedCommandsCf batch.idempotencyScope]? with
    | some bytes =>
      have hrd : Recorded format state.db batch.idempotencyScope _ := .mk hs
      have hun : ¬Applies format limits state.db batch := fun h => nomatch h.fresh.symm.trans hs
      cases hde : format.decodeResponse bytes with
      | error error =>
        rw [hde] at hrd
        refine .inl ⟨rfl,error,hrd,?_⟩
        simp only [hde]
        rfl
      | ok previous =>
        rw [hde] at hrd
        by_cases hsa : previous.commandId = batch.commandId ∧ previous.batchDigest = batch.batchDigest
        · refine .inr (.inl ⟨rfl,previous,hrd,hsa,?_⟩)
          simp only [hde, Except.mapError, ok_bind, if_pos hsa]
          rfl
        · refine .inr (.inr (.inl ⟨⟨fun _ recorded ho => ?_,hun⟩,
            rejected format.toByteFormat batch "idempotency-scope-conflict",rfl,.inr ⟨_,rfl⟩,?_⟩))
          · cases ho with
            | @mk bytes' hb' =>
              obtain rfl : bytes' = bytes := Option.some.inj (hb'.symm.trans hs)
              exact ⟨previous,hde,hsa⟩
          · simp only [hde, Except.mapError, ok_bind, if_neg hsa]
            rfl
    | none =>
      have hn : ∀ recorded, ¬Recorded format state.db batch.idempotencyScope recorded := by
        rintro recorded ⟨hb⟩
        rw [hs] at hb
        cases hb
      rw [rocks_firstUnsatisfied_eq hc]
      simp only [ok_bind]
      cases hf : firstUnsatisfied format.toByteFormat state.db 0 batch.preconditions with
      | some =>
        refine .inr (.inr (.inl ⟨⟨fun _ recorded ho => absurd ho (hn recorded),fun h => ?_⟩,_,rfl,
          .inl ⟨_,rfl⟩,rfl⟩))
        rw [firstUnsatisfied_eq_none_iff.mpr h.satisfied] at hf
        cases hf
      | none =>
        have hfa : checkAll (fun mutation : Mutation K V => raftCf mutation.address.columnFamily) batch.mutations =
            .ok () := by
          rw [checkAll_eq_ok]
          intro mutation hin
          rw [raftCf, ensure_eq_ok]
          simpa using hm mutation hin
        refine .inr (.inr (.inr ⟨⟨hva,hs,firstUnsatisfied_eq_none_iff.mp hf⟩,?_⟩))
        simp only [hfa, ok_bind]
        rfl

end Answers

end BpmpPlatform.Replication

namespace BpmpPlatform.Store
open Std Outcome Replication List

variable {C M : Type} {request : CommitRequest} {encrypted : Encrypted C} {tail : Nat} {db : Db C M}
  {prepared : List (PreparedEvent C)}

section Families

def workflowFamilies : List String :=
  [eventsCf, dedupCf, outboxCf, outboxMetaCf, snapshotsCf, streamMetaCf, idempotencyCf, authorizationAuditCf]

theorem workflowFamilies_opened : ∀ family ∈ workflowFamilies, family ∈ columnFamilies := by decide

theorem workflowFamilies_spare : ∀ family ∈ workflowFamilies, family ∉ bookkeepingFamilies := by decide

theorem mem_families_of_all {A : Type} (f : A → String) {l : List A} {a : A} (h : a ∈ l)
    (hl : l.all (fun a => workflowFamilies.contains (f a)) = true) : f a ∈ workflowFamilies :=
  mem_of_elem_eq_true (all_eq_true.mp hl a h)

variable {write : DbWrite C M}

theorem appendedWrites_family (h : write ∈ appendedWrites request tail prepared) :
    write.address.columnFamily ∈ workflowFamilies := by
  induction prepared generalizing tail with
  | nil => cases h
  | cons event prepared ih =>
    rw [appendedWrites, mem_append] at h
    rcases h with h | h
    · exact mem_families_of_all (fun w => w.address.columnFamily) h rfl
    · exact ih h

theorem commitWrites_family (h : write ∈ commitWrites request encrypted tail) :
    write.address.columnFamily ∈ workflowFamilies := by
  rw [commitWrites, mem_append, mem_cons, mem_append] at h
  rcases h with h | rfl | h | h
  · exact appendedWrites_family h
  · exact mem_of_elem_eq_true rfl
  · refine mem_families_of_all (fun w => w.address.columnFamily) h ?_
    cases encrypted.snapshot <;> rfl
  · exact mem_families_of_all (fun w => w.address.columnFamily) h rfl

variable {condition : Precondition StoreKey}

theorem appendedConditions_family (h : condition ∈ appendedConditions request tail prepared) :
    condition.storageKey.columnFamily ∈ workflowFamilies := by
  induction prepared generalizing tail with
  | nil => cases h
  | cons event prepared ih =>
    rw [appendedConditions, mem_append] at h
    rcases h with h | h
    · exact mem_families_of_all (fun c => c.storageKey.columnFamily) h rfl
    · exact ih h

variable {format : RocksFormat StoreKey (StoreValue C M) M}

theorem commitConditions_family (h : condition ∈ commitConditions request format db encrypted tail) :
    condition.storageKey.columnFamily ∈ workflowFamilies := by
  simp only [commitConditions, mem_cons, mem_append] at h
  rcases h with rfl | rfl | rfl | rfl | h | h
  · exact mem_of_elem_eq_true rfl
  · exact mem_of_elem_eq_true rfl
  · exact mem_of_elem_eq_true rfl
  · exact mem_of_elem_eq_true rfl
  · refine mem_families_of_all (fun c => c.storageKey.columnFamily) h ?_
    cases encrypted.snapshot <;> rfl
  · exact appendedConditions_family h

end Families

section Conditions
variable {format : RocksFormat StoreKey (StoreValue C M) M}

/-- What is stored as the version of the stream has the digest of the expected version only if it is this version. -/
def VersionDistinct (format : RocksFormat StoreKey (StoreValue C M) M) (db : Db C M) (request : CommitRequest) : Prop :=
  ∀ value, db[StorageKey.mk streamMetaCf (streamMetaKey request.tenantId request.instanceId)]? = some value →
    format.valueDigest value = format.valueDigest (.number request.expectedVersion) →
    value = .number request.expectedVersion

theorem versionDistinct_empty : VersionDistinct format ∅ request := by
  intro value h
  simp at h

theorem versionDistinct_of_ne {actual : Nat} (hv : readVersion db request.tenantId request.instanceId = .ok actual)
    (h : format.valueDigest (.number actual) ≠ format.valueDigest (.number request.expectedVersion)) :
    VersionDistinct format db request := by
  intro value hdb hd
  simp only [readVersion, hdb] at hv
  cases value with
  | number n =>
    cases hv
    exact absurd hd h
  | _ => cases hv

theorem satisfied_missing_iff {family : String} {key : StoreKey} :
    satisfied format.toByteFormat db (missingPrecondition family key) = true ↔
      db[StorageKey.mk family key]? = none := by
  unfold satisfied missingPrecondition
  cases db[StorageKey.mk family key]? <;> simp

/-- The condition on the version holds only at this version. -/
theorem version_of_satisfied (hd : VersionDistinct format db request)
    (h : satisfied format.toByteFormat db (currentValuePrecondition format streamMetaCf
      (streamMetaKey request.tenantId request.instanceId) (expectedVersionValue request.expectedVersion)) = true) :
    readVersion db request.tenantId request.instanceId = .ok request.expectedVersion := by
  unfold satisfied currentValuePrecondition expectedVersionValue at h
  unfold readVersion
  cases hv : db[StorageKey.mk streamMetaCf (streamMetaKey request.tenantId request.instanceId)]? with
  | none =>
    by_cases hz : 0 < request.expectedVersion
    · simp [hv, hz] at h
    · rw [Nat.eq_zero_of_not_pos hz]
  | some value =>
    by_cases hz : 0 < request.expectedVersion
    · simp only [hv, hz, if_true, beq_iff_eq] at h
      rw [hd value hv h]
    · simp [hv, hz] at h

variable {db' : Db C M} {event : PreparedEvent C}

theorem version_mem_commitConditions :
    currentValuePrecondition format streamMetaCf (streamMetaKey request.tenantId request.instanceId)
      (expectedVersionValue request.expectedVersion) ∈ commitConditions request format db encrypted outboxTail :=
  mem_cons_self

theorem result_mem_commitConditions : missingPrecondition idempotencyCf (resultKey request) ∈
    commitConditions request format db encrypted outboxTail :=
  mem_cons_of_mem _ mem_cons_self

theorem audit_mem_commitConditions : missingPrecondition authorizationAuditCf encrypted.audit.1 ∈
    commitConditions request format db encrypted outboxTail :=
  mem_cons_of_mem _ (mem_cons_of_mem _ mem_cons_self)

theorem dedup_mem_appendedConditions (h : event ∈ prepared) :
    missingPrecondition dedupCf (dedupStorageKey request.tenantId event.envelope.metadata.eventId) ∈
      appendedConditions request tail prepared := by
  induction prepared generalizing tail with
  | nil => cases h
  | cons other prepared ih =>
    rw [appendedConditions, mem_append]
    rcases mem_cons.mp h with rfl | h
    · exact .inl (mem_cons_of_mem _ mem_cons_self)
    · exact .inr (ih h)

theorem dedup_mem_commitConditions (h : event ∈ encrypted.events) :
    missingPrecondition dedupCf (dedupStorageKey request.tenantId event.envelope.metadata.eventId) ∈
      commitConditions request format db encrypted tail := by
  simp only [commitConditions, mem_cons, mem_append]
  exact .inr (.inr (.inr (.inr (.inr (dedup_mem_appendedConditions h)))))

end Conditions

namespace Sample

def format : RocksFormat StoreKey (StoreValue C M) M where
  keyBytes _ := [1]
  valueBytes
    | .number n => 1 :: Encoding.be64 n
    | .event record | .snapshot _ record | .authorizationAudit record | .governance record => 2 :: record.nonce
    | _ => []
  noBytes := .empty
  sha256 bytes := Vector.replicate 32 (bytes.foldl (fun hash byte => 31 * hash + byte) 7)
  serializedSize _ := some 100
  metadataKey := ⟨"metadata", [], []⟩
  encodeResponse response := .response response.commandId response.batchDigest response.outcome response.responsePayload
  decodeResponse
    | .response commandId batchDigest outcome payload => .ok ⟨commandId, batchDigest, outcome, payload⟩
    | _ => .error "not a response"
  decode_encodeResponse _ := rfl
  encodeMetadata := .position
  decodeMetadata
    | .position metadata => .ok metadata
    | _ => .error "not a position"
  decode_encodeMetadata _ := rfl

def limits : StateMachineLimits where
  maxConditions := 64
  maxMutations := 64
  maxBatchBytes := 4096
  maxSnapshotBytes := 4096
  snapshotDirectory := "/snapshots"
  appendOnlyColumnFamilies := ExtTreeSet.ofList
    [eventsCf, dedupCf, outboxCf, idempotencyCf, authorizationAuditCf, raftAppliedCommandsCf]

def metadata : StateMachineMetadata Nat := default

end Sample

end BpmpPlatform.Store
