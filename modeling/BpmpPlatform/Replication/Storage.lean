import BpmpPlatform.Replication.Batch

/-! # The storages behind the state machine

A storage applies a batch under one atomic boundary, together with the position in the log: one in memory, the other
in the column families of a database.
-/
namespace BpmpPlatform.Replication
open Std Outcome

inductive ApplyOutcome
  | applied
  | duplicate
  | preconditionFailed (conditionIndex : Nat)
  | rejected (reason : String)
  deriving DecidableEq

structure ApplyResponse (V : Type) where
  commandId : String
  batchDigest : ValueDigest
  outcome : ApplyOutcome
  responsePayload : V

structure AtomicStorageError where
  reason : String
  deriving DecidableEq

structure LogId where
  term : Nat
  nodeId : Nat
  index : Nat
  deriving DecidableEq

structure StoredMembership (M : Type) where
  logId : Option LogId
  membership : M
  deriving DecidableEq

structure StateMachineMetadata (M : Type) where
  lastApplied : Option LogId
  membership : StoredMembership M
  deriving DecidableEq

instance {M : Type} [Inhabited M] : Inhabited (StateMachineMetadata M) := ⟨none, none, default⟩

structure SizedFormat (Message : Type) extends MessageFormat Message where
  size : Bytes → Nat

section
variable (K V M S Snapshot : Type)

/-- What the state machine needs of a storage. A call that fails leaves the state as it is. -/
structure AtomicStateStorage where
  loadMetadata : S → Except AtomicStorageError (StateMachineMetadata M)
  persistMetadata : StateMachineMetadata M → S → Except AtomicStorageError S
  apply : PreparedAtomicBatch K V → StateMachineLimits → StateMachineMetadata M → S →
    Except AtomicStorageError (ApplyResponse V × S)
  exportSnapshotWithMetadata : S → Except AtomicStorageError (Snapshot × StateMachineMetadata M)
  installSnapshot : Snapshot → StateMachineMetadata M → S → Except AtomicStorageError S

end

section Conditions
variable {K V : Type} [Ord K] [TransOrd K] (format : ByteFormat K V) (records : ExtTreeMap (StorageKey K) V)

def satisfied (condition : Precondition K) : Bool :=
  match condition.expected, records[condition.storageKey]? with
  | .missing, none => true
  | .digest expected, some value => format.valueDigest value == expected
  | _, _ => false

def firstUnsatisfied (index : Nat) : List (Precondition K) → Option Nat
  | [] => none
  | condition :: conditions =>
    if satisfied format records condition then firstUnsatisfied (index + 1) conditions else some index

def rejected (batch : PreparedAtomicBatch K V) (reason : String) : ApplyResponse V :=
  ⟨batch.commandId, batch.batchDigest, .rejected reason, format.noBytes⟩

def conditionFailed (batch : PreparedAtomicBatch K V) (index : Nat) : ApplyResponse V :=
  ⟨batch.commandId, batch.batchDigest, .preconditionFailed (min index (2 ^ 32 - 1)), format.noBytes⟩

def appliedResponse (batch : PreparedAtomicBatch K V) : ApplyResponse V :=
  ⟨batch.commandId, batch.batchDigest, .applied, batch.responsePayload⟩

end Conditions

section Memory
variable {K V M : Type}

structure AppliedCommand (V : Type) where
  commandId : String
  batchDigest : ValueDigest
  responsePayload : V

structure InMemoryState (K V M : Type) [Ord K] where
  records : ExtTreeMap (StorageKey K) V
  applied : ExtTreeMap K (AppliedCommand V)
  metadata : StateMachineMetadata M

structure SerializableInMemoryState (K V : Type) where
  records : List (StorageKey K × V)
  applied : List (K × AppliedCommand V)

variable [Ord K] [TransOrd K] [DecidableEq K] (format : ByteFormat K V)

/-- `InMemoryAtomicStateStorage::apply`. -/
def InMemoryState.apply (batch : PreparedAtomicBatch K V) (limits : StateMachineLimits) (metadata : StateMachineMetadata M)
    (state : InMemoryState K V M) : ApplyResponse V × InMemoryState K V M :=
  match batch.validate format limits with
  | .error error => (rejected format batch error.text, { state with metadata := metadata })
  | .ok () =>
    match state.applied[batch.idempotencyScope]? with
    | some command =>
      let response :=
        if command.commandId = batch.commandId ∧ command.batchDigest = batch.batchDigest then
          ⟨command.commandId, command.batchDigest, .duplicate, command.responsePayload⟩
        else rejected format batch "idempotency-scope-conflict"
      (response, { state with metadata := metadata })
    | none =>
      match firstUnsatisfied format state.records 0 batch.preconditions with
      | some index => (conditionFailed format batch index, { state with metadata := metadata })
      | none => (appliedResponse batch, {
          records := applyWrites state.records batch.mutations
          applied := state.applied.insert batch.idempotencyScope
            ⟨batch.commandId, batch.batchDigest, batch.responsePayload⟩
          metadata := metadata })

/-- `InMemoryAtomicStateStorage`; its snapshots are serialized without a bound. -/
def memoryStorage (snapshots : MessageFormat (SerializableInMemoryState K V)) :
    AtomicStateStorage K V M (InMemoryState K V M) snapshots.Bytes where
  loadMetadata state := .ok state.metadata
  persistMetadata metadata state := .ok { state with metadata := metadata }
  apply batch limits metadata state := .ok (state.apply format batch limits metadata)
  exportSnapshotWithMetadata state :=
    .ok (snapshots.encode ⟨state.records.toList, state.applied.toList⟩, state.metadata)
  installSnapshot snapshot metadata _ := do
    let serializable ← (snapshots.decode snapshot).mapError AtomicStorageError.mk
    return {
      records := ExtTreeMap.ofList serializable.records
      applied := ExtTreeMap.ofList serializable.applied
      metadata := metadata }

end Memory

section Rocks

def raftAppliedCommandsCf : String := "raft_applied_commands"

def raftStateMetaCf : String := "raft_state_meta"

def raftLogCf : String := "raft_log"

def raftMetaCf : String := "raft_meta"

/-- `authoritative_column_families`. -/
def authoritativeColumnFamilies : List String :=
  ["events", "snapshots", "stream_meta", "dedup", "outbox", "idempotency", "authorization_audit", "outbox_meta",
    "boundary_subscriptions", "boundary_timer_index", "boundary_signals", "boundary_signal_index", "boundary_meta",
    "local_task_meta", "remote_tasks", "remote_task_ready_index", "remote_task_lease_index", "compensation_ledger",
    "reconciliation_work_items", "governance_audit", raftAppliedCommandsCf]

def columnFamilies : List String := authoritativeColumnFamilies ++ [raftStateMetaCf, raftLogCf, raftMetaCf]

variable {K V M : Type}

structure RocksStateSnapshotRecord (K V : Type) where
  columnFamily : String
  key : K
  value : V

structure RocksStateSnapshot (K V : Type) where
  columnFamilies : List String
  records : List (RocksStateSnapshotRecord K V)

/-- How responses and positions are stored as values, and the key of the position. -/
structure RocksFormat (K V M : Type) extends ByteFormat K V where
  metadataKey : K
  encodeResponse : ApplyResponse V → V
  decodeResponse : V → Except String (ApplyResponse V)
  decode_encodeResponse : ∀ response, decodeResponse (encodeResponse response) = .ok response
  encodeMetadata : StateMachineMetadata M → V
  decodeMetadata : V → Except String (StateMachineMetadata M)
  decode_encodeMetadata : ∀ metadata, decodeMetadata (encodeMetadata metadata) = .ok metadata

structure RocksState (K V : Type) [Ord K] where
  db : ExtTreeMap (StorageKey K) V
  maxSnapshotBytes : Nat

variable [Ord K] [TransOrd K] [DecidableEq K] [Inhabited M] (format : RocksFormat K V M)

def raftCf (name : String) : Except AtomicStorageError Unit :=
  ensure (columnFamilies.contains name) ⟨"missing RocksDB column family " ++ name⟩

def putRaftStateMetadata (metadata : StateMachineMetadata M) : Write (StorageKey K) V :=
  .put ⟨raftStateMetaCf, format.metadataKey⟩ (format.encodeMetadata metadata)

def RocksState.write (state : RocksState K V) (writes : List (Write (StorageKey K) V)) : RocksState K V :=
  { state with db := applyWrites state.db writes }

def RocksState.firstUnsatisfied (state : RocksState K V) (index : Nat) :
    List (Precondition K) → Except AtomicStorageError (Option Nat)
  | [] => .ok none
  | condition :: conditions => do
    raftCf condition.storageKey.columnFamily
    if satisfied format.toByteFormat state.db condition then state.firstUnsatisfied (index + 1) conditions
    else return some index

/-- `RocksDbAtomicStateStorage::load_metadata`. -/
def RocksState.loadMetadata (state : RocksState K V) : Except AtomicStorageError (StateMachineMetadata M) :=
  match state.db[(⟨raftStateMetaCf, format.metadataKey⟩ : StorageKey K)]? with
  | none => .ok default
  | some bytes => (format.decodeMetadata bytes).mapError AtomicStorageError.mk

/-- `RocksDbAtomicStateStorage::apply`. -/
def RocksState.apply (batch : PreparedAtomicBatch K V) (limits : StateMachineLimits) (metadata : StateMachineMetadata M)
    (state : RocksState K V) : Except AtomicStorageError (ApplyResponse V × RocksState K V) := do
  let position := putRaftStateMetadata format metadata
  match batch.validate format.toByteFormat limits with
  | .error error => return (rejected format.toByteFormat batch error.text, state.write [position])
  | .ok () =>
    match state.db[(⟨raftAppliedCommandsCf, batch.idempotencyScope⟩ : StorageKey K)]? with
    | some bytes =>
      let previous ← (format.decodeResponse bytes).mapError AtomicStorageError.mk
      if previous.commandId = batch.commandId ∧ previous.batchDigest = batch.batchDigest then
        return ({ previous with outcome := .duplicate }, state.write [position])
      else return (rejected format.toByteFormat batch "idempotency-scope-conflict", state.write [position])
    | none =>
      match ← state.firstUnsatisfied format 0 batch.preconditions with
      | some index => return (conditionFailed format.toByteFormat batch index, state.write [position])
      | none =>
        checkAll (fun mutation : Mutation K V => raftCf mutation.address.columnFamily) batch.mutations
        return (appliedResponse batch, state.write (position :: (batch.mutations ++
          [.put ⟨raftAppliedCommandsCf, batch.idempotencyScope⟩ (format.encodeResponse (appliedResponse batch))])))

def familyRecords (db : ExtTreeMap (StorageKey K) V) (family : String) : List (StorageKey K × V) :=
  db.toList.filter fun record => record.1.columnFamily == family

/-- `RocksDbAtomicStateStorage::export_snapshot_with_metadata`. -/
def RocksState.exportSnapshot (snapshots : SizedFormat (RocksStateSnapshot K V)) (state : RocksState K V) :
    Except AtomicStorageError (snapshots.Bytes × StateMachineMetadata M) := do
  let metadata ← state.loadMetadata format
  let bytes := snapshots.encode {
    columnFamilies := authoritativeColumnFamilies
    records := authoritativeColumnFamilies.flatMap fun family =>
      (familyRecords state.db family).map fun record => ⟨family, record.1.key, record.2⟩ }
  ensure (decide (snapshots.size bytes ≤ state.maxSnapshotBytes)) ⟨"snapshot exceeds configured byte limit"⟩
  return (bytes, metadata)

def sumCurrentBytes (maxSnapshotBytes : Nat) (currentBytes : Nat) : List (StorageKey K × V) → Except AtomicStorageError Unit
  | [] => .ok ()
  | record :: records => do
    let currentBytes := currentBytes + (format.keyBytes record.1.key).length + (format.valueBytes record.2).length
    ensure (decide (currentBytes < 2 ^ 64)) ⟨"current state size overflow"⟩
    ensure (decide (currentBytes ≤ maxSnapshotBytes)) ⟨"current state exceeds configured snapshot install bound"⟩
    sumCurrentBytes maxSnapshotBytes currentBytes records

/-- `RocksDbAtomicStateStorage::install_snapshot`. -/
def RocksState.installSnapshot (snapshots : SizedFormat (RocksStateSnapshot K V)) (bytes : snapshots.Bytes)
    (metadata : StateMachineMetadata M) (state : RocksState K V) : Except AtomicStorageError (RocksState K V) := do
  ensure (decide (snapshots.size bytes ≤ state.maxSnapshotBytes))
    ⟨"snapshot exceeds configured byte limit " ++ toString state.maxSnapshotBytes⟩
  let snapshot ← (snapshots.decode bytes).mapError AtomicStorageError.mk
  let configured := ExtTreeSet.ofList authoritativeColumnFamilies compare
  let supplied := ExtTreeSet.ofList snapshot.columnFamilies compare
  ensure (decide (configured.toList = supplied.toList) && supplied.size == snapshot.columnFamilies.length)
    ⟨"snapshot column-family schema mismatch"⟩
  ensure (!snapshot.records.any fun record => !configured.contains record.columnFamily)
    ⟨"snapshot contains an unknown column family"⟩
  let current := authoritativeColumnFamilies.flatMap (familyRecords state.db)
  sumCurrentBytes format state.maxSnapshotBytes 0 current
  return state.write (current.map (fun record => .delete record.1) ++
    (snapshot.records.map (fun record => .put ⟨record.columnFamily, record.key⟩ record.value) ++
    [putRaftStateMetadata format metadata]))

/-- `RocksDbAtomicStateStorage`. -/
def rocksStorage (snapshots : SizedFormat (RocksStateSnapshot K V)) :
    AtomicStateStorage K V M (RocksState K V) snapshots.Bytes where
  loadMetadata state := state.loadMetadata format
  persistMetadata metadata state := .ok (state.write [putRaftStateMetadata format metadata])
  apply batch limits metadata state := state.apply format batch limits metadata
  exportSnapshotWithMetadata state := state.exportSnapshot format snapshots
  installSnapshot bytes metadata state := state.installSnapshot format snapshots bytes metadata

end Rocks

section Answers
variable {K V M : Type} [DecidableEq K] {batch : PreparedAtomicBatch K V} {limits : StateMachineLimits}
  {response : ApplyResponse V}

inductive NotApplied (format : ByteFormat K V) (batch : PreparedAtomicBatch K V) (limits : StateMachineLimits) :
    ApplyResponse V → Prop
  | invalid {error : BatchValidationError} (h : batch.validate format limits = .error error) :
      NotApplied format batch limits (rejected format batch error.text)
  | replayed {response : ApplyResponse V} (h : batch.validate format limits = .ok ()) (houtcome : response.outcome = .duplicate) :
      NotApplied format batch limits response
  | conflict (h : batch.validate format limits = .ok ()) :
      NotApplied format batch limits (rejected format batch "idempotency-scope-conflict")
  | failed (h : batch.validate format limits = .ok ()) (index : Nat) :
      NotApplied format batch limits (conditionFailed format batch index)

theorem NotApplied.outcome_ne {format : ByteFormat K V} (h : NotApplied format batch limits response) :
    response.outcome ≠ .applied := by
  cases h with
  | invalid => exact nofun
  | replayed _ ho =>
    rw [ho]
    exact nofun
  | conflict | failed => exact nofun

variable [Ord K] [TransOrd K]

/-- A batch in memory is not applied and moves the position, or it is valid, new and its conditions hold. -/
theorem memory_apply_cases (format : ByteFormat K V) (batch : PreparedAtomicBatch K V) (limits : StateMachineLimits)
    (metadata : StateMachineMetadata M) (state : InMemoryState K V M) :
    (NotApplied format batch limits (state.apply format batch limits metadata).1 ∧
      (state.apply format batch limits metadata).2 = { state with metadata := metadata }) ∨
    (batch.validate format limits = .ok () ∧ state.applied[batch.idempotencyScope]? = none ∧
      firstUnsatisfied format state.records 0 batch.preconditions = none ∧
      state.apply format batch limits metadata = (appliedResponse batch, {
        records := applyWrites state.records batch.mutations
        applied := state.applied.insert batch.idempotencyScope ⟨batch.commandId, batch.batchDigest, batch.responsePayload⟩
        metadata := metadata })) := by
  unfold InMemoryState.apply
  split
  · rename_i hin
    exact .inl ⟨.invalid hin,rfl⟩
  · rename_i hva
    split
    · refine .inl ⟨?_,rfl⟩
      simp only
      split
      · exact .replayed hva rfl
      · exact .conflict hva
    · rename_i hf
      split
      · rename_i index _
        exact .inl ⟨.failed hva index,rfl⟩
      · rename_i hc
        exact .inr ⟨hva,hf,hc,rfl⟩

/-- A batch in the database is not applied and moves the position, or it is valid, new and its conditions hold. -/
theorem rocks_apply_cases {format : RocksFormat K V M} {metadata : StateMachineMetadata M}
    {state state' : RocksState K V} (h : state.apply format batch limits metadata = .ok (response, state')) :
    (NotApplied format.toByteFormat batch limits response ∧ state' = state.write [putRaftStateMetadata format metadata]) ∨
    (batch.validate format.toByteFormat limits = .ok () ∧
      state.db[StorageKey.mk raftAppliedCommandsCf batch.idempotencyScope]? = none ∧
      state.firstUnsatisfied format 0 batch.preconditions = .ok none ∧ response = appliedResponse batch ∧
      state' = state.write (putRaftStateMetadata format metadata :: (batch.mutations ++
        [.put ⟨raftAppliedCommandsCf, batch.idempotencyScope⟩ (format.encodeResponse (appliedResponse batch))]))) := by
  unfold RocksState.apply at h
  simp only at h
  split at h
  · rename_i hin
    injection h with h
    injection h with hr hs
    exact .inl ⟨hr ▸ .invalid hin,hs.symm⟩
  · rename_i hva
    split at h
    · simp only [bind_eq_ok] at h
      obtain ⟨previous,_,h⟩ := h
      split at h
      · injection h with h
        injection h with hr hs
        exact .inl ⟨hr ▸ .replayed hva rfl,hs.symm⟩
      · injection h with h
        injection h with hr hs
        exact .inl ⟨hr ▸ .conflict hva,hs.symm⟩
    · rename_i hf
      simp only [bind_eq_ok] at h
      obtain ⟨found,hc,h⟩ := h
      split at h
      · rename_i index
        injection h with h
        injection h with hr hs
        exact .inl ⟨hr ▸ .failed hva index,hs.symm⟩
      · simp only [bind_eq_ok] at h
        obtain ⟨_,_,h⟩ := h
        injection h with h
        injection h with hr hs
        exact .inr ⟨hva,hf,hc,hr.symm,hs.symm⟩

end Answers

section Adapters

inductive StorageAdapter
  | memory
  | rocks

namespace StorageAdapter
variable {K V M : Type} [Ord K]

def State (K V M : Type) [Ord K] : StorageAdapter → Type
  | .memory => InMemoryState K V M
  | .rocks => RocksState K V

variable (memorySnapshots : MessageFormat (SerializableInMemoryState K V))
  (rocksSnapshots : SizedFormat (RocksStateSnapshot K V))

def Snapshot : StorageAdapter → Type
  | .memory => memorySnapshots.Bytes
  | .rocks => rocksSnapshots.Bytes

variable [TransOrd K] [DecidableEq K] [Inhabited M] (format : RocksFormat K V M)

def port : (adapter : StorageAdapter) →
    AtomicStateStorage K V M (adapter.State K V M) (adapter.Snapshot memorySnapshots rocksSnapshots)
  | .memory => memoryStorage format.toByteFormat memorySnapshots
  | .rocks => rocksStorage format rocksSnapshots

def contents : (adapter : StorageAdapter) → adapter.State K V M → StorageKey K → Option V
  | .memory => fun state key => state.records[key]?
  | .rocks => fun state key => state.db[key]?

def taken : (adapter : StorageAdapter) → adapter.State K V M → K → Bool
  | .memory => fun state scope => state.applied[scope]?.isSome
  | .rocks => fun state scope => state.db[(⟨raftAppliedCommandsCf, scope⟩ : StorageKey K)]?.isSome

end StorageAdapter

end Adapters

end BpmpPlatform.Replication
