import BpmpPlatform.Replication.History
import BpmpPlatform.Library.Related

/-! # Transfer of snapshots

A node that installs a snapshot agrees with the node it came from on what batches read and write, and answers the rest
of the log alike.
-/
namespace BpmpPlatform.Replication
open Std Outcome AuthoritativeStateMachine RocksState List

section Laws
variable {K V M S Snapshot : Type}

def localFamilies : List String := [raftStateMetaCf, raftLogCf, raftMetaCf]

/-- The batch neither reads nor writes what is local to a node. -/
structure PreparedAtomicBatch.Transferable (batch : PreparedAtomicBatch K V) : Prop where
  reads : ∀ condition ∈ batch.preconditions, condition.storageKey.columnFamily ∉ localFamilies
  writes : ∀ mutation ∈ batch.mutations, mutation.address.columnFamily ∉ localFamilies

def Entry.Transferable (entry : Entry K V M) : Prop := ∀ batch, entry.payload = .normal batch → batch.Transferable

/-- What a storage does for the transfer of its state: `Agrees` compares the state that is carried, `Fits` says that a
snapshot of the one can replace the state of the other. -/
structure Transfers (port : AtomicStateStorage K V M S Snapshot) (Agrees Fits : S → S → Prop) : Prop where
  load_persist : ∀ {metadata s t}, port.persistMetadata metadata s = .ok t → port.loadMetadata t = .ok metadata
  load_apply : ∀ {batch limits metadata s response t}, batch.Transferable →
    port.apply batch limits metadata s = .ok (response, t) → port.loadMetadata t = .ok metadata
  persist : ∀ {s s'}, Agrees s s' → ∀ metadata,
    Related Agrees (port.persistMetadata metadata s) (port.persistMetadata metadata s')
  apply : ∀ {batch s s'}, batch.Transferable → Agrees s s' → ∀ limits metadata,
    Related (fun result result' => result.1 = result'.1 ∧ Agrees result.2 result'.2)
      (port.apply batch limits metadata s) (port.apply batch limits metadata s')
  fits_persist : ∀ {metadata s t other}, port.persistMetadata metadata s = .ok t → Fits s other → Fits t other
  fits_apply : ∀ {batch limits metadata s response t other}, port.apply batch limits metadata s = .ok (response, t) →
    Fits s other → Fits t other
  load_export : ∀ {s snapshot metadata}, port.exportSnapshotWithMetadata s = .ok (snapshot, metadata) →
    port.loadMetadata s = .ok metadata
  install : ∀ {s snapshot metadata other}, port.exportSnapshotWithMetadata s = .ok (snapshot, metadata) → Fits s other →
    ∃ t, port.installSnapshot snapshot metadata other = .ok t ∧ Agrees t s

end Laws

section Runs
variable {K V M S Snapshot : Type} {format : ByteFormat K V} {port : AtomicStateStorage K V M S Snapshot}
  {Agrees Fits : S → S → Prop} {machine machine' : AuthoritativeStateMachine S M}

/-- The position of the machine is the one its storage has, as after `AuthoritativeStateMachine::new`. -/
def AuthoritativeStateMachine.InSync (port : AtomicStateStorage K V M S Snapshot) (machine : AuthoritativeStateMachine S M) :
    Prop := port.loadMetadata machine.storage = .ok ⟨machine.lastApplied, machine.membership⟩

structure Alike (Agrees : S → S → Prop) (machine machine' : AuthoritativeStateMachine S M) : Prop where
  storage : Agrees machine.storage machine'.storage
  limits : machine.limits = machine'.limits
  lastApplied : machine.lastApplied = machine'.lastApplied
  membership : machine.membership = machine'.membership

variable {entry : Entry K V M}

section
variable (laws : Transfers port Agrees Fits) {other : S} {entries : List (Entry K V M)}
include laws

theorem Transfers.step_ready (he : entry.Transferable) (hs : machine.InSync port) (hf : Fits machine.storage other) :
    (machine.step format port entry).2.InSync port ∧ Fits (machine.step format port entry).2.storage other := by
  rcases step_cases format port machine entry with ⟨error,heq⟩ | ⟨metadata,storage,_,hp,heq⟩ |
    ⟨batch,response,storage,hpay,hap,heq⟩
  · rw [heq]
    exact ⟨hs,hf⟩
  · rw [heq]
    exact ⟨laws.load_persist hp,laws.fits_persist hp hf⟩
  · rw [heq]
    exact ⟨laws.load_apply (he batch hpay) hap,laws.fits_apply hap hf⟩

/-- What a log keeps: the position in step with the storage, and the bound of the snapshots. -/
theorem Transfers.applyLog_ready (hes : ∀ entry ∈ entries, entry.Transferable) (hs : machine.InSync port)
    (hf : Fits machine.storage other) :
    (machine.applyLog format port entries).2.InSync port ∧ Fits (machine.applyLog format port entries).2.storage other ∧
      (machine.applyLog format port entries).2.limits = machine.limits := by
  induction entries generalizing machine with
  | nil => exact ⟨hs,hf,rfl⟩
  | cons entry entries ih =>
    rw [forall_mem_cons] at hes
    rw [applyLog_cons]
    obtain ⟨hs,hf⟩ := laws.step_ready hes.1 hs hf
    obtain ⟨hs',hf',hl⟩ := ih hes.2 hs hf
    exact ⟨hs',hf',hl.trans (step_limits machine entry)⟩

/-- An entry has the same answer on machines that are alike, and leaves them alike. -/
theorem Transfers.step_alike (he : entry.Transferable) (h : Alike Agrees machine machine') :
    (machine.step format port entry).1 = (machine'.step format port entry).1 ∧
      Alike Agrees (machine.step format port entry).2 (machine'.step format port entry).2 := by
  obtain ⟨hs,hl,hap,hme⟩ := h
  have hre : Related (fun result result' => result.1 = result'.1 ∧ Alike Agrees result.2 result'.2)
      (machine.applyEntry format port entry) (machine'.applyEntry format port entry) := by
    unfold applyEntry
    rw [hme]
    cases hp : entry.payload with
    | blank | membership =>
      exact (laws.persist hs _).bind fun storage storage' hag => .ok ⟨rfl,hag,hl,rfl,rfl⟩
    | normal batch =>
      rw [hl]
      exact (laws.apply (he batch hp) hs _ _).bind fun result result' hsa =>
        .ok ⟨hsa.1,hsa.2,rfl,rfl,rfl⟩
  unfold step
  cases he' : machine.applyEntry format port entry with
  | error =>
    rw [hre.error_of_error he']
    exact ⟨rfl,hs,hl,hap,hme⟩
  | ok =>
    obtain ⟨result',hr',hr,hal⟩ := hre.exists_of_ok he'
    rw [hr']
    exact ⟨congrArg Except.ok hr,hal⟩

theorem Transfers.applyLog_alike (hes : ∀ entry ∈ entries, entry.Transferable) (h : Alike Agrees machine machine') :
    (machine.applyLog format port entries).1 = (machine'.applyLog format port entries).1 ∧
      Alike Agrees (machine.applyLog format port entries).2 (machine'.applyLog format port entries).2 := by
  induction entries generalizing machine machine' with
  | nil => exact ⟨rfl,h⟩
  | cons entry entries ih =>
    rw [forall_mem_cons] at hes
    obtain ⟨ha,hal⟩ := laws.step_alike hes.1 h
    obtain ⟨han,hend⟩ := ih hes.2 hal
    rw [applyLog_cons, applyLog_cons, ha, han]
    exact ⟨rfl,hend⟩

end

theorem length_applyLog (machine : AuthoritativeStateMachine S M) (entries : List (Entry K V M)) :
    (machine.applyLog format port entries).1.length = entries.length := by
  induction entries generalizing machine with
  | nil => rfl
  | cons entry entries ih => rw [applyLog_cons, length_cons, ih, length_cons]

variable [DecidableEq M] {files : SizedFormat (PersistedSnapshot M Snapshot)}

/-- A snapshot that was built is received and installed, and the node is then like the one that built it. -/
theorem Transfers.install_built (laws : Transfers port Agrees Fits) {second : AuthoritativeStateMachine S M}
    {expected : SnapshotMeta M} {file : files.Bytes} (hs : machine.InSync port)
    (hf : Fits machine.storage second.storage) (hl : second.limits = machine.limits)
    (hbu : machine.buildSnapshot port files = .ok (expected, file)) : second.receiveSnapshot files file = .ok file ∧
      ∃ installed, second.installSnapshot port files expected file = .ok installed ∧ Alike Agrees installed machine := by
  simp only [buildSnapshot, bind_eq_ok, ensure_eq_ok, decide_eq_true_eq] at hbu
  obtain ⟨⟨snapshot,metadata⟩,hex,_,hsi,⟨⟩⟩ := hbu
  have hlo := laws.load_export hex
  have hme : metadata = ⟨machine.lastApplied, machine.membership⟩ := Except.ok.inj (hlo.symm.trans hs)
  obtain ⟨storage,hin,hag⟩ := laws.install hex hf
  constructor
  · simp only [receiveSnapshot, bind_eq_ok, ensure_eq_ok, decide_eq_true_eq]
    exact ⟨(),hl ▸ hsi,rfl⟩
  · refine ⟨⟨storage, second.limits, metadata.lastApplied, metadata.membership⟩,?_,hag,hl,?_,?_⟩
    · simp [AuthoritativeStateMachine.installSnapshot, files.decode_encode, Except.mapError, hin, ensure, Bind.bind,
        Except.bind, Pure.pure, Except.pure]
    · rw [hme]
    · rw [hme]

end Runs

section Memory
variable {K V M : Type} [Ord K] [TransOrd K] [LawfulEqOrd K] [DecidableEq K]

def InMemoryState.Agrees (state state' : InMemoryState K V M) : Prop :=
  state.records = state'.records ∧ state.applied = state'.applied

theorem memory_transfers (format : ByteFormat K V) (snapshots : MessageFormat (SerializableInMemoryState K V)) :
    Transfers (M := M) (memoryStorage format snapshots) InMemoryState.Agrees fun _ _ => True where
  load_persist h := by
    injection h with h
    subst h
    rfl
  load_apply {batch limits metadata s response t} _ h := by
    have hr : s.apply format batch limits metadata = (response, t) := Except.ok.inj h
    rcases memory_apply_cases format batch limits metadata s with ⟨_,hs⟩ | ⟨_,_,_,hap⟩
    · rw [hr] at hs
      rw [show t = _ from hs]
      rfl
    · obtain ⟨_,rfl⟩ := Prod.mk.inj (hr.symm.trans hap)
      rfl
  persist h _ := .ok h
  apply _ h limits metadata := by
    obtain ⟨hrs,hap⟩ := h
    refine .ok ?_
    unfold InMemoryState.apply
    rw [hrs, hap]
    split
    · exact ⟨rfl,rfl,rfl⟩
    · split
      · exact ⟨rfl,rfl,rfl⟩
      · split
        · exact ⟨rfl,rfl,rfl⟩
        · exact ⟨rfl,rfl,rfl⟩
  fits_persist _ _ := trivial
  fits_apply _ _ := trivial
  load_export h := by
    injection h with h
    exact congrArg (fun result => Except.ok result.2) h
  install {s snapshot metadata other} h _ := by
    injection h with h
    injection h with hsn hme
    refine ⟨⟨s.records, s.applied, metadata⟩,?_,rfl,rfl⟩
    rw [← hsn]
    simp only [memoryStorage, snapshots.decode_encode, Except.mapError, ok_bind, ofList_toList]
    rfl

end Memory

section Rocks
variable {K V M : Type} [Ord K] [TransOrd K] [LawfulEqOrd K] [DecidableEq K] [Inhabited M] {format : RocksFormat K V M}
  {state state' : RocksState K V}

def RocksState.Agrees (state state' : RocksState K V) : Prop :=
  ∀ key : StorageKey K, key.columnFamily ∈ authoritativeColumnFamilies → state.db[key]? = state'.db[key]?

def RocksState.currentSize (format : RocksFormat K V M) (state : RocksState K V) : Nat :=
  ((authoritativeColumnFamilies.flatMap (familyRecords state.db)).map fun record =>
    (format.keyBytes record.1.key).length + (format.valueBytes record.2).length).sum

/-- The bound is the same on both nodes, and the state to be replaced is within it. -/
structure RocksState.Fits (format : RocksFormat K V M) (state other : RocksState K V) : Prop where
  bound : state.maxSnapshotBytes = other.maxSnapshotBytes
  current : other.currentSize format ≤ other.maxSnapshotBytes
  machine : other.maxSnapshotBytes < 2 ^ 64

variable {family : String} {batch : PreparedAtomicBatch K V} {metadata : StateMachineMetadata M}
  {response : ApplyResponse V} {db : ExtTreeMap (StorageKey K) V} {record : StorageKey K × V}

theorem mem_authoritative_of_known (h : columnFamilies.contains family = true) (hlo : family ∉ localFamilies) :
    family ∈ authoritativeColumnFamilies := by
  have hin : family ∈ columnFamilies := by simpa using h
  exact (mem_append.mp hin).resolve_right hlo

theorem authoritative_not_local (h : family ∈ authoritativeColumnFamilies) : family ∉ localFamilies := by
  revert family
  decide

theorem RocksState.Agrees.write (h : state.Agrees state') (writes : List (Write (StorageKey K) V)) :
    (state.write writes).Agrees (state'.write writes) := fun _ hkey => applyWrites_agree (h _ hkey)

omit [LawfulEqOrd K] [DecidableEq K] [Inhabited M] in
theorem firstUnsatisfied_agrees (h : state.Agrees state') {conditions : List (Precondition K)}
    (hre : ∀ condition ∈ conditions, condition.storageKey.columnFamily ∉ localFamilies) (index : Nat) :
    state.firstUnsatisfied format index conditions = state'.firstUnsatisfied format index conditions := by
  induction conditions generalizing index with
  | nil => rfl
  | cons condition conditions ih =>
    rw [forall_mem_cons] at hre
    unfold RocksState.firstUnsatisfied
    cases hf : raftCf condition.storageKey.columnFamily with
    | error => rfl
    | ok =>
      have hkn : columnFamilies.contains condition.storageKey.columnFamily = true := by
        simpa [raftCf] using hf
      have hr := h condition.storageKey (mem_authoritative_of_known hkn hre.1)
      have hsa : satisfied format.toByteFormat state.db condition = satisfied format.toByteFormat state'.db condition := by
        unfold satisfied
        rw [hr]
      simp only [ok_bind, hsa, ih hre.2]

omit [Inhabited M] in
theorem rocks_apply_agrees (hb : batch.Transferable) (h : state.Agrees state')
    (limits : StateMachineLimits) (metadata : StateMachineMetadata M) :
    Related (fun result result' => result.1 = result'.1 ∧ result.2.Agrees result'.2)
      (state.apply format batch limits metadata) (state'.apply format batch limits metadata) := by
  have hs := h ⟨raftAppliedCommandsCf, batch.idempotencyScope⟩ (by simp [authoritativeColumnFamilies])
  unfold RocksState.apply
  rw [hs, firstUnsatisfied_agrees h hb.reads]
  simp only
  split
  · exact .ok ⟨rfl,h.write _⟩
  · split
    · refine .bind_same fun previous _ => ?_
      split
      · exact .ok ⟨rfl,h.write _⟩
      · exact .ok ⟨rfl,h.write _⟩
    · refine .bind_same fun found _ => ?_
      split
      · exact .ok ⟨rfl,h.write _⟩
      · exact .bind_same fun _ _ => .ok ⟨rfl,h.write _⟩

/-- The position is read back where nothing later touches it. -/
theorem loadMetadata_write {writes : List (Write (StorageKey K) V)}
    (h : ∀ write ∈ writes, write.address.columnFamily ≠ raftStateMetaCf) :
    (state.write (putRaftStateMetadata format metadata :: writes)).loadMetadata format = .ok metadata := by
  have hpo : (state.write (putRaftStateMetadata format metadata :: writes)).db[
      StorageKey.mk raftStateMetaCf format.metadataKey]? = some (format.encodeMetadata metadata) := by
    refine getElem?_applyWrites_head fun write hin heq => h write hin ?_
    rw [heq]
    rfl
  unfold loadMetadata
  rw [hpo]
  simp only [format.decode_encodeMetadata]
  rfl

theorem loadMetadata_apply (hb : batch.Transferable) {limits : StateMachineLimits}
    (h : state.apply format batch limits metadata = .ok (response, state')) :
    state'.loadMetadata format = .ok metadata := by
  rcases rocks_apply_cases h with ⟨_,rfl⟩ | ⟨_,_,_,_,rfl⟩
  · exact loadMetadata_write fun _ hin => (not_mem_nil hin).elim
  · refine loadMetadata_write fun write hin heq => ?_
    rcases mem_append.mp hin with hin | hin
    · have := hb.writes write hin
      rw [heq] at this
      exact this (by decide)
    · rw [mem_singleton.mp hin] at heq
      exact appliedCommands_ne_stateMeta heq

omit [DecidableEq K] in
theorem mem_familyRecords :
    record ∈ familyRecords db family ↔ record.1.columnFamily = family ∧ db[record.1]? = some record.2 := by
  rw [familyRecords, mem_filter, ← ExtTreeMap.mem_toList_iff_getElem?_eq_some, beq_iff_eq]
  exact and_comm

omit [Ord K] [TransOrd K] [LawfulEqOrd K] [DecidableEq K] [Inhabited M] in
theorem sumCurrentBytes_eq_ok {maxSnapshotBytes currentBytes : Nat} {records : List (StorageKey K × V)}
    (hb : maxSnapshotBytes < 2 ^ 64) (h : currentBytes + (records.map fun record =>
      (format.keyBytes record.1.key).length + (format.valueBytes record.2).length).sum ≤ maxSnapshotBytes) :
    sumCurrentBytes format maxSnapshotBytes currentBytes records = .ok () := by
  induction records generalizing currentBytes with
  | nil => rfl
  | cons record records ih =>
    rw [map_cons, sum_cons] at h
    simp only [sumCurrentBytes, bind_eq_ok, ensure_eq_ok, decide_eq_true_eq]
    exact ⟨(),by omega,(),by omega,ih (by omega)⟩

def RocksState.toSnapshot (state : RocksState K V) : RocksStateSnapshot K V where
  columnFamilies := authoritativeColumnFamilies
  records := authoritativeColumnFamilies.flatMap fun family =>
    (familyRecords state.db family).map fun record => ⟨family, record.1.key, record.2⟩

omit [DecidableEq K] in
theorem mem_toSnapshot {record : RocksStateSnapshotRecord K V} : record ∈ state.toSnapshot.records ↔
    record.columnFamily ∈ authoritativeColumnFamilies ∧
      state.db[StorageKey.mk record.columnFamily record.key]? = some record.value := by
  simp only [toSnapshot, mem_flatMap, mem_map, mem_familyRecords]
  constructor
  · rintro ⟨family,hin,⟨⟨_,key⟩,value⟩,⟨rfl,hr⟩,rfl⟩
    exact ⟨hin,hr⟩
  · rintro ⟨hin,hr⟩
    exact ⟨record.columnFamily,hin,(⟨record.columnFamily, record.key⟩, record.value),⟨rfl,hr⟩,rfl⟩

def installWrites (format : RocksFormat K V M) (state other : RocksState K V) (metadata : StateMachineMetadata M) :
    List (Write (StorageKey K) V) :=
  (authoritativeColumnFamilies.flatMap (familyRecords other.db)).map (fun record => .delete record.1) ++
    (state.toSnapshot.records.map (fun record => .put ⟨record.columnFamily, record.key⟩ record.value) ++
    [putRaftStateMetadata format metadata])

omit [Inhabited M] in
theorem installWrites_agrees (state other : RocksState K V) (metadata : StateMachineMetadata M) :
    (other.write (installWrites format state other metadata)).Agrees state := by
  intro key hkey
  have hpo : (putRaftStateMetadata format metadata).address ≠ key := by
    rintro rfl
    exact authoritative_not_local hkey mem_cons_self
  refine (congrArg (fun db : ExtTreeMap (StorageKey K) V => db[key]?) (applyWrites_append _ _ _)).trans ?_
  -- The last part of the writes puts the record, if there is one, whatever was deleted before.
  refine getElem?_applyWrites_of_forall (P := (· = state.db[key]?)) ?_ ?_
  · intro write hin had
    rcases mem_append.mp hin with hin | hin
    · obtain ⟨record,hmem,rfl⟩ := mem_map.mp hin
      rw [← had]
      exact (mem_toSnapshot.mp hmem).2.symm
    · rw [mem_singleton.mp hin] at had
      exact absurd had hpo
  cases hr : state.db[key]? with
  | some value =>
    refine .inl ⟨.put key value,mem_append_left _ (mem_map.mpr ⟨⟨key.columnFamily, key.key, value⟩,?_,rfl⟩),rfl⟩
    exact mem_toSnapshot.mpr ⟨hkey,hr⟩
  | none =>
    refine .inr (getElem?_applyWrites_of_forall (P := (· = none)) ?_ ?_)
    · intro write hin _
      obtain ⟨record,_,rfl⟩ := mem_map.mp hin
      rfl
    cases ho : other.db[key]? with
    | none => exact .inr rfl
    | some value =>
      exact .inl ⟨.delete key,mem_map.mpr ⟨(key, value),mem_flatMap.mpr ⟨_,hkey,mem_familyRecords.mpr ⟨rfl,ho⟩⟩,rfl⟩,rfl⟩

omit [DecidableEq K] in
theorem rocks_install {snapshots : SizedFormat (RocksStateSnapshot K V)} {bytes : snapshots.Bytes}
    {other : RocksState K V}
    (hex : state.exportSnapshot format snapshots = .ok (bytes, metadata)) (hf : state.Fits format other) :
    other.installSnapshot format snapshots bytes metadata = .ok (other.write (installWrites format state other metadata)) := by
  simp only [exportSnapshot, bind_eq_ok, ensure_eq_ok, decide_eq_true_eq] at hex
  obtain ⟨_,_,_,hs,⟨⟩⟩ := hex
  have hco : (!state.toSnapshot.records.any fun record =>
      !(ExtTreeSet.ofList authoritativeColumnFamilies compare).contains record.columnFamily) = true := by
    rw [Bool.not_eq_true', any_eq_false]
    intro record hin
    simp [ExtTreeSet.contains_ofList, (mem_toSnapshot.mp hin).1]
  have hsum : sumCurrentBytes format other.maxSnapshotBytes 0
      (authoritativeColumnFamilies.flatMap (familyRecords other.db)) = .ok () := by
    refine sumCurrentBytes_eq_ok hf.machine ?_
    rw [Nat.zero_add]
    exact hf.current
  simp only [RocksState.installSnapshot, bind_eq_ok, ensure_eq_ok, decide_eq_true_eq, mapError_eq_ok,
    pure_eq_ok]
  refine ⟨(),hf.bound ▸ hs,state.toSnapshot,snapshots.decode_encode _,(),?_,(),hco,(),hsum,rfl⟩
  simp only [toSnapshot, decide_true, Bool.true_and, beq_iff_eq]
  decide

theorem rocks_transfers (format : RocksFormat K V M) (snapshots : SizedFormat (RocksStateSnapshot K V)) :
    Transfers (rocksStorage format snapshots) RocksState.Agrees (RocksState.Fits format) where
  load_persist h := by
    injection h with h
    subst h
    exact loadMetadata_write fun _ hin => (not_mem_nil hin).elim
  load_apply hb h := loadMetadata_apply hb h
  persist h _ := .ok (h.write _)
  apply hb h limits metadata := rocks_apply_agrees hb h limits metadata
  fits_persist h hf := by
    injection h with h
    subst h
    exact ⟨hf.bound,hf.current,hf.machine⟩
  fits_apply h hf := by
    rcases rocks_apply_cases h with ⟨_,rfl⟩ | ⟨_,_,_,_,rfl⟩ <;> exact ⟨hf.bound,hf.current,hf.machine⟩
  load_export {s snapshot metadata} h := by
    simp only [rocksStorage, exportSnapshot, bind_eq_ok, pure_eq_ok, Prod.mk.injEq] at h
    obtain ⟨_,hl,_,_,_,rfl⟩ := h
    exact hl
  install h hf := ⟨_,rocks_install h hf,installWrites_agrees _ _ _⟩

end Rocks

namespace StorageAdapter
variable {K V M : Type} [Ord K] [TransOrd K] [LawfulEqOrd K] [DecidableEq K] [Inhabited M]

def Agrees : (adapter : StorageAdapter) → adapter.State K V M → adapter.State K V M → Prop
  | .memory => InMemoryState.Agrees
  | .rocks => RocksState.Agrees

def Fits (format : RocksFormat K V M) : (adapter : StorageAdapter) → adapter.State K V M → adapter.State K V M → Prop
  | .memory => fun _ _ => True
  | .rocks => RocksState.Fits format

end StorageAdapter

namespace Sample

def snapshotFiles : SizedFormat (PersistedSnapshot Nat (StorageAdapter.rocks.Snapshot memorySnapshots rocksSnapshots)) :=
  { MessageFormat.plain (PersistedSnapshot Nat (StorageAdapter.rocks.Snapshot memorySnapshots rocksSnapshots)) with
    size := fun _ => 0 }

def emptyMachine : AuthoritativeStateMachine (RocksState String Stored) Nat where
  storage := ⟨∅, 4096⟩
  limits := limits 8
  lastApplied := none
  membership := ⟨none, 0⟩

def rocksPort := StorageAdapter.rocks.port memorySnapshots rocksSnapshots format

def restOutcomes (before after : List (Entry String Stored Nat)) :
    Except AtomicStorageError (List (Option ApplyOutcome) × List (Option ApplyOutcome)) := do
  let outcomes := List.map fun result : Except AtomicStorageError (ApplyResponse Stored) =>
    result.toOption.map ApplyResponse.outcome
  let first := (eventMachine.applyLog format.toByteFormat rocksPort before).2
  let (expected, file) ← first.buildSnapshot rocksPort snapshotFiles
  let installed ← emptyMachine.installSnapshot rocksPort snapshotFiles expected file
  return (outcomes (installed.applyLog format.toByteFormat rocksPort after).1,
    outcomes (first.applyLog format.toByteFormat rocksPort after).1)

def unlessLogged : PreparedAtomicBatch String Stored :=
  .new format.toByteFormat "unless" "unless" [⟨⟨raftLogCf, "7"⟩, .missing⟩, ⟨⟨"events", "2"⟩, .missing⟩]
    [.put ⟨"events", "2"⟩ (.text "second")] (.text "unless")

theorem putEntry_transferable {index : Nat} {scope family key value : String} (h : family ∉ localFamilies) :
    (logEntry index (putBatch scope family key value)).Transferable := by
  rintro _ ⟨⟩
  exact ⟨forall_mem_singleton.mpr h,forall_mem_singleton.mpr h⟩

end Sample

open BpmpPlatform.Replication.Sample

end BpmpPlatform.Replication
